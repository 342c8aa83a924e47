import CodeMarkup.Config.Toml
import CodeMarkup.Proofs.Toml.Tables
import CodeMarkup.Proofs.Toml.Values

/-!
# What the document of a configuration says

A configuration is a table, with tables for its settings and its aliases and a list of
tables for its languages (`CodeMarkup.Config.values`). This is what its document says
(`CodeMarkup.Config.datum?_toDocument`), whether there are languages, whose sections
come last, or none, when an empty list is written in front; and it is what the configuration
is read from (`CodeMarkup.Config.ofDatum?_values`), if its numbers have no more than
64 bits.
-/

namespace CodeMarkup

open Toml

/-! ### Settings and aliases -/

/-- The settings as values. -/
def Settings.values (s : Settings) : List (String × Datum) := [
  ("class_prefix", .string s.classPrefix),
  ("collapse_nested_spans", .bool s.collapse),
  ("enable_cache", .bool s.useCache),
  ("cache_capacity", .nat s.cacheCapacity),
  ("max_highlight_bytes", .nat s.maxBytes)]

theorem Settings.ofDatum?_values (d : Datum.Dialect) {s : Settings}
    (hcapacity : s.cacheCapacity < 0x10000000000000000)
    (hbytes : s.maxBytes < 0x10000000000000000) :
    ofDatum? d (.table s.values) = some s := by
  simp [ofDatum?, values, Datum.fields?, Datum.valueOf?, Datum.optional, Datum.string?, Datum.bool?,
    Datum.nat?, hcapacity, hbytes]

theorem Settings.nodup_values (s : Settings) : (s.values.map Prod.fst).Nodup := by
  simp [values]

/-- The aliases as values. -/
def AliasTable.values (t : AliasTable) : List (String × Datum) :=
  t.entries.map fun e => (e.1, .string e.2)

theorem AliasTable.ofDatum?_values (t : AliasTable) : ofDatum? (.table t.values) = some t := by
  have haliases : t.values.mapM aliasOf? = some t.entries :=
    mapM_map_eq_some aliasOf? (fun e => (e.1, .string e.2)) (fun _ => rfl) t.entries
  rw [ofDatum?, haliases, Option.map_some, ofList_entries]

theorem AliasTable.toSection_eq (t : AliasTable) :
    t.toSection = ⟨["aliases"], false, simple t.values⟩ := by
  rw [toSection, simple, values, List.map_map]
  rfl

theorem AliasTable.nodup_values (t : AliasTable) : (t.values.map Prod.fst).Nodup := by
  rw [values, List.map_map, List.Nodup, List.pairwise_map]
  refine t.ascending.imp fun {e e'} (h : e.1 < e'.1) (heq : e.1 = e'.1) => ?_
  rw [heq] at h
  exact String.lt_irrefl _ h

/-! ### Languages -/

/-- A rule as values. -/
def RuleDef.values (r : RuleDef) : List (String × Datum) :=
  [("name", .string r.name), ("pattern", .string r.pattern), ("class", .string r.spanClass.name)]

/-- A language as values. -/
def LanguageDef.values (l : LanguageDef) : List (String × Datum) := [
  ("id", .string l.id),
  ("aliases", Datum.ofStrings l.aliases),
  ("rules", .list (l.rules.map fun r => .table r.values))]

theorem RuleDef.ofDatum?_values (d : Datum.Dialect) (r : RuleDef) :
    ofDatum? d (.table r.values) = some r := by
  simp [ofDatum?, values, Datum.fields?, Datum.valueOf?, Datum.required, Datum.string?,
    SpanClass.ofDatum?, Datum.choice?, SpanClass.ofName?_name]

theorem LanguageDef.ofDatum?_values (d : Datum.Dialect) (l : LanguageDef) :
    ofDatum? d (.table l.values) = some l := by
  have haliases : Datum.list? Datum.string? (Datum.ofStrings l.aliases) = some l.aliases :=
    mapM_map_eq_some Datum.string? Datum.string (fun _ => rfl) l.aliases
  have hrules : Datum.list? (RuleDef.ofDatum? d) (.list (l.rules.map fun r => .table r.values)) =
      some l.rules := mapM_map_eq_some (RuleDef.ofDatum? d) _ (RuleDef.ofDatum?_values d) l.rules
  simp [ofDatum?, values, Datum.fields?, Datum.valueOf?, Datum.required, Datum.optional,
    Datum.string?, haliases, hrules]

/-! ### The sections of a language -/

/-- The values in the first section of a language. -/
def LanguageDef.ownValues (l : LanguageDef) : List (String × Datum) :=
  [("id", .string l.id), ("aliases", Datum.ofStrings l.aliases)] ++
    if l.rules.isEmpty then [("rules", .list [])] else []

/-- The first section of a language. -/
def LanguageDef.ownSection (l : LanguageDef) : Section := ⟨["languages"], true, simple l.ownValues⟩

theorem LanguageDef.toSections_eq (l : LanguageDef) :
    l.toSections = l.ownSection :: l.rules.map RuleDef.toSection := by
  rw [toSections, ownSection, ownValues]
  cases l.rules <;> rfl

/-- The table that the sections of a language make. -/
def LanguageDef.tableEntries (l : LanguageDef) : Entries :=
  withTables "rules" (l.rules.map fun r => valueEntries r.values) (valueEntries l.ownValues)

theorem LanguageDef.entriesData_tableEntries (l : LanguageDef) :
    entriesData l.tableEntries = l.values := by
  rw [tableEntries, entriesData_withTables, entriesData_valueEntries, ownValues, values]
  cases l.rules with
  | nil => rfl
  | cons r rules => simp

theorem RuleDef.nodup_values (r : RuleDef) : (r.values.map Prod.fst).Nodup := by
  simp [values]

theorem LanguageDef.nodup_ownValues (l : LanguageDef) : (l.ownValues.map Prod.fst).Nodup := by
  rw [ownValues]
  cases l.rules <;> simp

/-- The rules of a language end up in its table. -/
theorem LanguageDef.foldlM_rules (l : LanguageDef) :
    l.rules.foldlM (fun es r => openElement ["rules"] (simple r.values) es)
      (valueEntries l.ownValues) = some l.tableEntries := by
  cases hrules : l.rules with
  | nil => simp [tableEntries, hrules, withTables_nil]
  | cons r rules =>
    have hnew : (valueEntries l.ownValues).lookup "rules" = none :=
      lookup_valueEntries (by simp [ownValues, hrules])
    have hnodup : ∀ kvs ∈ (r :: rules).map RuleDef.values, (kvs.map Prod.fst).Nodup := by
      simp [RuleDef.nodup_values]
    have hfold := foldlM_openElement hnew [] hnodup
    rw [List.foldlM_map, List.map_map, List.nil_append, withTables_nil] at hfold
    rw [tableEntries, hrules]
    exact hfold

/-- **The sections of a language** make one more table of the array of languages. -/
theorem LanguageDef.foldlM_toSections {es : Entries} (hes : es.lookup "languages" = none)
    (tables : List Entries) (l : LanguageDef) :
    l.toSections.foldlM Document.addSection (withTables "languages" tables es) =
      some (withTables "languages" (tables ++ [l.tableEntries]) es) := by
  have hown : Document.addSection (withTables "languages" tables es) l.ownSection =
        some (withTables "languages" (tables ++ [valueEntries l.ownValues]) es) :=
    openElement_simple hes tables l.nodup_ownValues
  have hrules := foldlM_openElement_cons hes tables (valueEntries l.ownValues) "rules"
    (l.rules.map fun r => simple r.values)
  rw [List.foldlM_map, List.foldlM_map, l.foldlM_rules, Option.map_some] at hrules
  rw [l.toSections_eq, List.foldlM_cons, hown]
  refine Eq.trans ?_ hrules
  exact List.foldlM_map

/-- The sections of languages, one language after the other. -/
theorem foldlM_flatMap_toSections {es : Entries} (hes : es.lookup "languages" = none)
    (tables : List Entries) (ls : List LanguageDef) :
    (ls.flatMap LanguageDef.toSections).foldlM Document.addSection
        (withTables "languages" tables es) =
      some (withTables "languages" (tables ++ ls.map LanguageDef.tableEntries) es) := by
  induction ls generalizing tables with
  | nil => simp
  | cons l ls ih =>
    rw [List.flatMap_cons, List.foldlM_append, l.foldlM_toSections hes]
    refine (ih _).trans ?_
    rw [List.map_cons, List.append_assoc, List.singleton_append]

/-! ### Configurations -/

namespace Config

/-- The values before the first section: an empty list of languages, if there are none. -/
def frontValues (c : Config) : List (String × Datum) :=
  if c.languages.isEmpty then [("languages", .list [])] else []

/-- The tables with headers of their own. -/
def headedEntries (c : Config) : Entries := [
  ("highlight", .table .header (valueEntries c.settings.values)),
  ("aliases", .table .header (valueEntries c.aliases.values))]

/-- The entries that the document of a configuration makes. -/
def tableEntries (c : Config) : Entries :=
  withTables "languages" (c.languages.map LanguageDef.tableEntries)
    (valueEntries c.frontValues ++ c.headedEntries)

/-- A configuration as values. An empty list of languages comes first. -/
def values (c : Config) : List (String × Datum) :=
  let languages := ("languages", .list (c.languages.map fun l => .table l.values))
  let others := [("highlight", .table c.settings.values), ("aliases", .table c.aliases.values)]
  if c.languages.isEmpty then languages :: others else others ++ [languages]

theorem entriesData_tableEntries (c : Config) : entriesData c.tableEntries = c.values := by
  have hheaded : entriesData c.headedEntries =
      [("highlight", .table c.settings.values), ("aliases", .table c.aliases.values)] := by
    simp [headedEntries, entriesData, Node.datum]
  rw [tableEntries, entriesData_withTables, entriesData_append, entriesData_valueEntries, hheaded,
    frontValues, values]
  cases c.languages with
  | nil => rfl
  | cons l ls => simp [LanguageDef.entriesData_tableEntries]

/-- The tables with headers come behind the values without. -/
theorem addSection_headed (c : Config) :
    [c.settings.toSection, c.aliases.toSection].foldlM Document.addSection
      (valueEntries c.frontValues) = some (valueEntries c.frontValues ++ c.headedEntries) := by
  have hsettings : Document.addSection (valueEntries c.frontValues) c.settings.toSection =
      some (valueEntries c.frontValues ++
        [("highlight", .table .header (valueEntries c.settings.values))]) := by
    refine openTable_simple (lookup_valueEntries ?_) c.settings.nodup_values
    rw [frontValues]
    cases c.languages <;> simp
  have haliases : Document.addSection (valueEntries c.frontValues ++
      [("highlight", .table .header (valueEntries c.settings.values))]) c.aliases.toSection =
        some (valueEntries c.frontValues ++ c.headedEntries) := by
    have hnew : (valueEntries c.frontValues ++
        [("highlight", Node.table .header (valueEntries c.settings.values))]).lookup "aliases" =
          none := by
      rw [List.lookup_append, lookup_valueEntries (by rw [frontValues]; cases c.languages <;> simp)]
      rfl
    rw [c.aliases.toSection_eq]
    refine (openTable_simple hnew c.aliases.nodup_values).trans ?_
    rw [List.append_assoc]
    rfl
  rw [List.foldlM_cons, hsettings]
  exact congrArg (· >>= pure) haliases

/-- **The document of a configuration says its values.** -/
theorem datum?_toDocument (c : Config) : c.toDocument.datum? = some (.table c.values) := by
  have hfront : putAll c.toDocument.entries [] = some (valueEntries c.frontValues) := by
    rw [toDocument, frontValues]
    cases c.languages <;> rfl
  have hlanguages : (c.languages.flatMap LanguageDef.toSections).foldlM Document.addSection
      (valueEntries c.frontValues ++ c.headedEntries) = some c.tableEntries := by
    cases hl : c.languages with
    | nil => simp [tableEntries, hl, withTables_nil]
    | cons l ls =>
      have hnew : (valueEntries c.frontValues ++ c.headedEntries).lookup "languages" = none := by
        rw [List.lookup_append, lookup_valueEntries (by simp [frontValues, hl])]
        rfl
      rw [tableEntries, hl]
      exact foldlM_flatMap_toSections hnew [] (l :: ls)
  have hsections : c.toDocument.sections.foldlM Document.addSection (valueEntries c.frontValues) =
      some c.tableEntries := by
    change ([c.settings.toSection, c.aliases.toSection] ++
      c.languages.flatMap LanguageDef.toSections).foldlM Document.addSection _ = _
    rw [List.foldlM_append, addSection_headed]
    exact hlanguages
  rw [Document.datum?, hfront]
  change (c.toDocument.sections.foldlM Document.addSection _ >>= _) = _
  rw [hsections, ← entriesData_tableEntries]
  rfl

/-- **The values of a configuration are read as the configuration.** -/
theorem ofDatum?_values (d : Datum.Dialect) {c : Config}
    (hcapacity : c.settings.cacheCapacity < 0x10000000000000000)
    (hbytes : c.settings.maxBytes < 0x10000000000000000) :
    ofDatum? d (.table c.values) = some c := by
  have hlanguages : Datum.list? (LanguageDef.ofDatum? d)
      (.list (c.languages.map fun l => .table l.values)) = some c.languages :=
    mapM_map_eq_some (LanguageDef.ofDatum? d) _ (LanguageDef.ofDatum?_values d) c.languages
  have hfields : (Datum.table c.values).fields? d ["highlight", "aliases", "languages"] =
      some [some (.table c.settings.values), some (.table c.aliases.values),
        some (.list (c.languages.map fun l => .table l.values))] := by
    rw [values]
    cases c.languages <;> simp [Datum.fields?, Datum.valueOf?]
  simp [ofDatum?, hfields, Datum.optional, Settings.ofDatum?_values d hcapacity hbytes,
    AliasTable.ofDatum?_values, hlanguages]

end Config

end CodeMarkup
