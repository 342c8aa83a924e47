import CodeMarkup.Highlighter

/-!
# Configurations

A configuration (`CodeMarkup.Config`) has settings, languages of its own and aliases.
The languages come behind those that need no configuration, so they can take
identifiers away from them; the aliases come last, in ascending order, and each may
name one that comes before it (`CodeMarkup.Config.registry`).

The aliases are kept in order, without repetition (`CodeMarkup.AliasTable`).
-/

namespace CodeMarkup

/-! ### Aliases -/

/-- Aliases and the identifiers that they stand for, in ascending order of the aliases. -/
structure AliasTable where
  /-- Each alias with its target. -/
  entries : List (String × String)
  /-- Aliases ascend. -/
  ascending : entries.Pairwise fun a b => a.1 < b.1
  deriving DecidableEq

namespace AliasTable

/-- No aliases. -/
def empty : AliasTable := ⟨[], .nil⟩

/-- Ascending entries with an alias that has a new target. -/
def put (id target : String) : List (String × String) → List (String × String)
  | [] => [(id, target)]
  | e :: es =>
    if id < e.1 then (id, target) :: e :: es
    else if id = e.1 then (id, target) :: es
    else e :: put id target es

theorem fst_of_mem_put {id target : String} {x : String × String} :
    ∀ {es : List (String × String)}, x ∈ put id target es → x.1 = id ∨ x ∈ es
  | [], h => by simp_all [put]
  | e :: es, h => by
    rw [put] at h
    split at h
    · rcases List.mem_cons.1 h with rfl | h
      · exact .inl rfl
      · exact .inr h
    · split at h
      · rcases List.mem_cons.1 h with rfl | h
        · exact .inl rfl
        · exact .inr (List.mem_cons_of_mem _ h)
      · rcases List.mem_cons.1 h with rfl | h
        · exact .inr List.mem_cons_self
        · rcases fst_of_mem_put h with h | h
          · exact .inl h
          · exact .inr (List.mem_cons_of_mem _ h)

theorem pairwise_put {id target : String} :
    ∀ {es : List (String × String)}, es.Pairwise (fun a b => a.1 < b.1) →
      (put id target es).Pairwise fun a b => a.1 < b.1
  | [], _ => by simp [put]
  | e :: es, h => by
    obtain ⟨he, hes⟩ := List.pairwise_cons.1 h
    rw [put]
    split
    · next hlt =>
      refine List.pairwise_cons.2 ⟨fun x hx => ?_, h⟩
      rcases List.mem_cons.1 hx with rfl | hx
      · exact hlt
      · exact String.lt_trans hlt (he x hx)
    · split
      · next heq => exact List.pairwise_cons.2 ⟨fun x hx => heq ▸ he x hx, hes⟩
      · next hlt hne =>
        refine List.pairwise_cons.2 ⟨fun x hx => ?_, pairwise_put hes⟩
        rcases fst_of_mem_put hx with hx | hx
        · rw [hx]
          exact Std.lt_of_le_of_ne (String.not_lt.1 hlt) fun h => hne h.symm
        · exact he x hx

/-- The aliases with one that has a new target. -/
def insert (id target : String) (t : AliasTable) : AliasTable :=
  ⟨put id target t.entries, pairwise_put t.ascending⟩

/-- The aliases of a list, the last target of each. -/
def ofList (entries : List (String × String)) : AliasTable :=
  entries.foldl (fun t e => t.insert e.1 e.2) empty

/-- An alias above all others is put behind them. -/
theorem put_of_forall_lt {id target : String} :
    ∀ {es : List (String × String)}, (∀ e ∈ es, e.1 < id) → put id target es = es ++ [(id, target)]
  | [], _ => rfl
  | e :: es, h => by
    have he : e.1 < id := h e List.mem_cons_self
    have hne : id ≠ e.1 := by
      rintro rfl
      exact String.lt_irrefl _ he
    rw [put, if_neg fun hlt => String.lt_irrefl _ (String.lt_trans he hlt), if_neg hne,
      put_of_forall_lt fun x hx => h x (List.mem_cons_of_mem _ hx)]
    rfl

theorem entries_foldl_insert :
    ∀ (es : List (String × String)) (t : AliasTable),
      (t.entries ++ es).Pairwise (fun a b => a.1 < b.1) →
        (es.foldl (fun t e => t.insert e.1 e.2) t).entries = t.entries ++ es
  | [], t, _ => by simp
  | e :: es, t, h => by
    have hput : (t.insert e.1 e.2).entries = t.entries ++ [e] :=
      put_of_forall_lt fun x hx =>
        (List.pairwise_append.1 h).2.2 x hx e List.mem_cons_self
    rw [List.foldl_cons, entries_foldl_insert es _ (by rw [hput]; simpa using h), hput]
    simp

/-- **A table of aliases is the one that its entries make.** -/
theorem ofList_entries (t : AliasTable) : ofList t.entries = t := by
  have h : (ofList t.entries).entries = t.entries := entries_foldl_insert t.entries empty t.ascending
  cases t
  cases hs : ofList _
  simp_all

end AliasTable

/-! ### Languages -/

/-- A rule that wraps its matches in spans. -/
structure RuleDef where
  /-- The name of the rule. -/
  name : String
  /-- The pattern, matched against escaped text. -/
  pattern : String
  /-- The class of the spans. -/
  spanClass : SpanClass
  deriving DecidableEq, Repr

/-- A language. -/
structure LanguageDef where
  /-- The identifier that the language has its name from. -/
  id : String
  /-- More identifiers. -/
  aliases : List String
  /-- The rules, in the order in which they are applied. -/
  rules : List RuleDef
  deriving DecidableEq, Repr

namespace LanguageDef

/-- Checks a language. -/
def validate (l : LanguageDef) : Except ConfigFault Unit :=
  if (Unicode.trim l.id.toList).isEmpty then .error .blankLanguage
  else if l.rules.isEmpty then .error (.noRules l.id)
  else .ok ()

/-- The rule set of a language, if all of its patterns write expressions. -/
def compile (l : LanguageDef) : Except Error RuleSet :=
  match l.rules.mapM fun r => Rule.ofClass r.name r.pattern r.spanClass with
  | .ok rules => .ok ⟨Registry.normalize l.id, rules⟩
  | .error e => .error (.invalidPattern e)

/-- The identifiers of a language. -/
def identifiers (l : LanguageDef) : List String := l.id :: l.aliases

end LanguageDef

/-! ### Configurations -/

/-- Settings, languages and aliases. -/
structure Config where
  /-- The settings. -/
  settings : Settings
  /-- The aliases. -/
  aliases : AliasTable
  /-- The languages. -/
  languages : List LanguageDef
  deriving DecidableEq

namespace Config

/-- The configuration if nothing is said. -/
def default : Config := ⟨.default, .empty, []⟩

/-- Checks the settings, and then each language. -/
def validate (c : Config) : Except ConfigFault Unit := do
  c.settings.validate
  c.languages.forM LanguageDef.validate

/-- A registry with the languages of a configuration behind its own. -/
def addLanguages (languages : List LanguageDef) (r : Registry) : Except Error Registry :=
  languages.foldlM (fun r l => l.compile.map fun set => r.register set l.identifiers) r

/-- A registry with aliases. -/
def addAliases (aliases : AliasTable) (r : Registry) : Except Error Registry :=
  aliases.entries.foldlM (fun r e => r.addAlias e.1 e.2) r

/-- The registry of a configuration. -/
def registry (c : Config) : Except Error Registry :=
  (addLanguages c.languages .builtin).bind (addAliases c.aliases)

/-- The highlighter of a configuration. -/
def highlighter (c : Config) : Except Error Highlighter :=
  c.registry.bind (Highlighter.make c.settings)

end Config

end CodeMarkup
