import CodeMarkup.Config.Datum
import CodeMarkup.Toml.Document

/-!
# Configurations in TOML

A configuration is kept in a file, as TOML. `CodeMarkup.Config.ofToml` reads one and
checks it, `CodeMarkup.Config.toToml` writes one, and `CodeMarkup.Config.save` puts what is
written into a file.

What is written has the settings first and the aliases after them, then each language,
and behind it each of its rules, in a section of its own.
-/

namespace CodeMarkup

/-- Strings as a list. -/
def Datum.ofStrings (ss : List String) : Datum := .list (ss.map .string)

/-- The settings as a section. -/
def Settings.toSection (s : Settings) : Toml.Section where
  path := ["highlight"]
  isElement := false
  entries := [
    (["class_prefix"], .string s.classPrefix),
    (["collapse_nested_spans"], .bool s.collapse),
    (["enable_cache"], .bool s.useCache),
    (["cache_capacity"], .nat s.cacheCapacity),
    (["max_highlight_bytes"], .nat s.maxBytes)]

/-- The aliases as a section. -/
def AliasTable.toSection (t : AliasTable) : Toml.Section where
  path := ["aliases"]
  isElement := false
  entries := t.entries.map fun e => ([e.1], .string e.2)

/-- A rule as a section. -/
def RuleDef.toSection (r : RuleDef) : Toml.Section where
  path := ["languages", "rules"]
  isElement := true
  entries := [
    (["name"], .string r.name),
    (["pattern"], .string r.pattern),
    (["class"], .string r.spanClass.name)]

/-- A language as sections: its identifiers, and then its rules. -/
def LanguageDef.toSections (l : LanguageDef) : List Toml.Section :=
  { path := ["languages"]
    isElement := true
    entries :=
      [(["id"], .string l.id), (["aliases"], Datum.ofStrings l.aliases)] ++
        if l.rules.isEmpty then [(["rules"], .list [])] else [] } ::
    l.rules.map RuleDef.toSection

namespace Config

/-- A configuration as a document. -/
def toDocument (c : Config) : Toml.Document where
  entries := if c.languages.isEmpty then [(["languages"], .list [])] else []
  sections :=
    c.settings.toSection :: c.aliases.toSection :: c.languages.flatMap LanguageDef.toSections

/-- The text of a configuration. -/
def toToml (c : Config) : Except Error Text :=
  match c.toDocument.write? with
  | some t => .ok t
  | none => .error .unwritableConfig

/-- Saves a configuration by an action that replaces the bytes of a file, and answers whether it
could. The action is not taken for a configuration that cannot be written. -/
def save {m : Type → Type} [Monad m] (replace : ByteArray → m Bool) (c : Config) :
    m (Except Error Unit) := do
  match c.toToml with
  | .error e => return .error e
  | .ok t =>
    if ← replace (String.ofList t).toUTF8 then return .ok ()
    else return .error .inaccessibleFile

/-- The configuration that a text writes, if it is sound. -/
def ofToml (t : Text) : Except Error Config :=
  match (Toml.read? t).bind (ofDatum? Toml.dialect) with
  | none => .error .malformedConfig
  | some c =>
    match c.validate with
    | .ok _ => .ok c
    | .error f => .error (.invalidConfig f)

/-- The configuration in a file with the given bytes, if there is one. -/
def ofFile (contents : Option ByteArray) : Except Error Config :=
  match contents.bind String.fromUTF8? with
  | some s => ofToml s.toList
  | none => .error .inaccessibleFile

end Config

end CodeMarkup
