import CodeMarkup.Config
import CodeMarkup.Datum

/-!
# Configurations as data

What a datum says about settings and configurations, in either notation
(`CodeMarkup.Settings.ofDatum?`, `CodeMarkup.Config.ofDatum?`). Of a language and of a
rule all has to be said, other identifiers apart; whatever else is left out is as in the
default.
-/

namespace CodeMarkup

open Datum

/-- The class that a datum names. -/
def SpanClass.ofDatum? (d : Dialect) (v : Datum) : Option SpanClass :=
  (v.choice? d).bind SpanClass.ofName?

/-- The settings that a datum writes. -/
def Settings.ofDatum? (d : Dialect) (v : Datum) : Option Settings :=
  match v.fields? d ["class_prefix", "collapse_nested_spans", "enable_cache", "cache_capacity",
      "max_highlight_bytes"] with
  | some [classPrefix, collapse, useCache, cacheCapacity, maxBytes] => do
    let classPrefix ← optional default.classPrefix string? classPrefix
    let collapse ← optional default.collapse bool? collapse
    let useCache ← optional default.useCache bool? useCache
    let cacheCapacity ← optional default.cacheCapacity nat? cacheCapacity
    let maxBytes ← optional default.maxBytes nat? maxBytes
    return ⟨classPrefix, collapse, useCache, cacheCapacity, maxBytes⟩
  | _ => none

/-- The rule that a datum writes. -/
def RuleDef.ofDatum? (d : Dialect) (v : Datum) : Option RuleDef :=
  match v.fields? d ["name", "pattern", "class"] with
  | some [name, pattern, spanClass] => do
    let name ← required string? name
    let pattern ← required string? pattern
    let spanClass ← required (SpanClass.ofDatum? d) spanClass
    return ⟨name, pattern, spanClass⟩
  | _ => none

/-- The language that a datum writes. -/
def LanguageDef.ofDatum? (d : Dialect) (v : Datum) : Option LanguageDef :=
  match v.fields? d ["id", "aliases", "rules"] with
  | some [id, aliases, rules] => do
    let id ← required string? id
    let aliases ← optional [] (list? string?) aliases
    let rules ← required (list? (RuleDef.ofDatum? d)) rules
    return ⟨id, aliases, rules⟩
  | _ => none

/-- The alias that an entry of a table writes. -/
def AliasTable.aliasOf? (e : String × Datum) : Option (String × String) :=
  e.2.string?.map fun target => (e.1, target)

/-- The aliases that a datum writes. -/
def AliasTable.ofDatum? : Datum → Option AliasTable
  | .table entries => (entries.mapM aliasOf?).map ofList
  | _ => none

/-- The configuration that a datum writes. -/
def Config.ofDatum? (d : Dialect) (v : Datum) : Option Config :=
  match v.fields? d ["highlight", "aliases", "languages"] with
  | some [settings, aliases, languages] => do
    let settings ← optional default.settings (Settings.ofDatum? d) settings
    let aliases ← optional default.aliases AliasTable.ofDatum? aliases
    let languages ← optional default.languages (list? (LanguageDef.ofDatum? d)) languages
    return ⟨settings, aliases, languages⟩
  | _ => none

end CodeMarkup
