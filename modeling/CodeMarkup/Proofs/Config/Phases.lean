import CodeMarkup.Proofs.Inference

/-!
# The two phases of building a configuration

A configuration is built in two phases: its languages are registered behind the three
that are always there, and then its aliases are added, in the order of their keys. Both
phases are folds of steps that may fail, and such a fold fails exactly where a step fails
behind steps that succeed (`CodeMarkup.foldlM_eq_error_iff`).

The first phase fails at a pattern that writes no expression
(`CodeMarkup.Config.exists_addLanguages_iff`), and the second at an alias whose target nothing is
bound to (`CodeMarkup.Config.addEntries_eq_error_iff`). What is bound before a step can be told
without taking the steps: what was bound at the beginning, and what the languages or the
keys before it name.
-/

namespace CodeMarkup

open Registry hiding bind

/-! ### Languages -/

namespace LanguageDef

/-- That all patterns of a language write expressions. -/
def PatternsCompile (l : LanguageDef) : Prop :=
  ∀ rule ∈ l.rules, ∃ re, Regex.compile rule.pattern = .ok re

/-- That an identifier is among those of a language, in whatever spelling. -/
def Names (l : LanguageDef) (id : String) : Prop :=
  ∃ id' ∈ l.identifiers, normalize id' = normalize id

instance (l : LanguageDef) (id : String) : Decidable (l.Names id) :=
  inferInstanceAs (Decidable (∃ id' ∈ l.identifiers, normalize id' = normalize id))

theorem exists_compile_iff {l : LanguageDef} : (∃ set, l.compile = .ok set) ↔ l.PatternsCompile := by
  have hrule : ∀ rule : RuleDef,
      (∃ r, Rule.ofClass rule.name rule.pattern rule.spanClass = .ok r) ↔
        ∃ re, Regex.compile rule.pattern = .ok re := by
    intro rule
    simp [Rule.ofClass, map_eq_ok_iff]
  simp only [PatternsCompile, ← hrule, ← exists_mapM_eq_ok_iff, compile]
  cases l.rules.mapM fun r => Rule.ofClass r.name r.pattern r.spanClass <;> simp

/-- A language that fails has a bad pattern. -/
theorem error_of_compile {l : LanguageDef} {e : Error} (h : l.compile = .error e) :
    ∃ p, e = .invalidPattern p := by
  unfold compile at h
  split at h
  · cases h
  · next p _ =>
    cases h
    exact ⟨p, rfl⟩

/-- Registering a language binds what it names to the new slot, and touches nothing else. -/
theorem slot?_register (l : LanguageDef) (set : RuleSet) (r : Registry) (id : String) :
    (r.register set l.identifiers).slot? id =
      if l.Names id then some r.ruleSets.length else r.slot? id :=
  Registry.slot?_register set l.identifiers r id

end LanguageDef

namespace Config

section Languages

variable {languages : List LanguageDef} {r r' : Registry} {id : String}

/-- The languages are registered one by one. -/
theorem addLanguages_cons_eq_ok_iff {l : LanguageDef} :
    addLanguages (l :: languages) r = .ok r' ↔
      ∃ set, l.compile = .ok set ∧ addLanguages languages (r.register set l.identifiers) = .ok r' := by
  simp only [addLanguages, foldlM_cons_eq_ok_iff, map_eq_ok_iff]
  constructor
  · rintro ⟨-, ⟨set, hset, rfl⟩, h⟩
    exact ⟨set, hset, h⟩
  · rintro ⟨set, hset, h⟩
    exact ⟨_, ⟨set, hset, rfl⟩, h⟩

/-- The languages are registered if and only if all of their patterns write expressions. -/
theorem exists_addLanguages_iff :
    (∃ r', addLanguages languages r = .ok r') ↔ ∀ l ∈ languages, l.PatternsCompile := by
  induction languages generalizing r with
  | nil => exact iff_of_true ⟨r, rfl⟩ fun _ h => absurd h List.not_mem_nil
  | cons l languages ih =>
    rw [List.forall_mem_cons, ← LanguageDef.exists_compile_iff]
    simp only [addLanguages_cons_eq_ok_iff]
    constructor
    · rintro ⟨r', set, hset, h⟩
      exact ⟨⟨set, hset⟩, ih.1 ⟨r', h⟩⟩
    · rintro ⟨⟨set, hset⟩, hlanguages⟩
      obtain ⟨r', h⟩ := ih.2 hlanguages
      exact ⟨r', set, hset, h⟩

/-- The phase of the languages has one kind of error. -/
theorem error_of_addLanguages {e : Error} (h : addLanguages languages r = .error e) :
    ∃ p, e = .invalidPattern p := by
  obtain ⟨-, l, -, r₁, -, -, hl⟩ := foldlM_eq_error_iff.1 h
  cases hc : l.compile with
  | error e' =>
    obtain rfl : e' = e := by simpa [hc, Except.map] using hl
    exact LanguageDef.error_of_compile hc
  | ok set => simp [hc, Except.map] at hl

/-- Each language puts one rule set behind the others. -/
theorem ruleSets_addLanguages (h : addLanguages languages r = .ok r') :
    ∃ sets, sets.length = languages.length ∧ r'.ruleSets = r.ruleSets ++ sets := by
  induction languages generalizing r with
  | nil =>
    cases h
    exact ⟨[], rfl, (List.append_nil _).symm⟩
  | cons l languages ih =>
    obtain ⟨set, -, h⟩ := addLanguages_cons_eq_ok_iff.1 h
    obtain ⟨sets, hlength, hsets⟩ := ih h
    refine ⟨set :: sets, by rw [List.length_cons, List.length_cons, hlength], ?_⟩
    rw [hsets, ruleSets_register, List.append_assoc, List.singleton_append]

/-- What no language names stays where it is. -/
theorem slot?_addLanguages_of_forall_not (h : addLanguages languages r = .ok r')
    (hid : ∀ l ∈ languages, ¬l.Names id) : r'.slot? id = r.slot? id := by
  induction languages generalizing r with
  | nil =>
    cases h
    rfl
  | cons l languages ih =>
    obtain ⟨set, -, h⟩ := addLanguages_cons_eq_ok_iff.1 h
    obtain ⟨hl, hlanguages⟩ := List.forall_mem_cons.1 hid
    rw [ih h hlanguages, l.slot?_register, if_neg hl]

/-- **A language has the slot of its place**, and what it names and no later one does is bound to
this slot. -/
theorem exists_of_addLanguages_append {before after : List LanguageDef} {l : LanguageDef}
    (h : addLanguages (before ++ l :: after) r = .ok r') :
    ∃ set, l.compile = .ok set ∧
      r'.ruleSets[r.ruleSets.length + before.length]? = some set ∧
      ∀ id, l.Names id → (∀ l' ∈ after, ¬l'.Names id) →
        r'.slot? id = some (r.ruleSets.length + before.length) := by
  obtain ⟨r₁, hbefore, h⟩ := foldlM_append_eq_ok_iff.1 h
  obtain ⟨set, hset, hafter⟩ := addLanguages_cons_eq_ok_iff.1 h
  obtain ⟨sets, hlength, hsets⟩ := ruleSets_addLanguages hbefore
  obtain ⟨sets', -, hsets'⟩ := ruleSets_addLanguages hafter
  -- The new slot is the one behind `before`, and the rule sets of `after` do not move it.
  have hslot : r₁.ruleSets.length = r.ruleSets.length + before.length := by
    rw [hsets, List.length_append, hlength]
  refine ⟨set, hset, ?_, fun id hl hlater => ?_⟩
  · rw [hsets', ruleSets_register, ← hslot]
    simp
  · rw [slot?_addLanguages_of_forall_not hafter hlater, l.slot?_register, if_pos hl, hslot]

/-- Behind the languages is bound what was bound before and what they name. -/
theorem isSome_slot?_addLanguages (h : addLanguages languages r = .ok r') :
    (r'.slot? id).isSome ↔ (r.slot? id).isSome ∨ ∃ l ∈ languages, l.Names id := by
  induction languages generalizing r with
  | nil =>
    cases h
    simp
  | cons l languages ih =>
    obtain ⟨set, -, h⟩ := addLanguages_cons_eq_ok_iff.1 h
    rw [ih h, l.slot?_register]
    by_cases hl : l.Names id <;> simp [hl]

end Languages

/-! ### Aliases -/

/-- A registry with the aliases of a list. -/
def addEntries (entries : List (String × String)) (r : Registry) : Except Error Registry :=
  entries.foldlM (fun r e => r.addAlias e.1 e.2) r

/-- That an identifier is among the keys of aliases, in whatever spelling. -/
def IsKey (entries : List (String × String)) (id : String) : Prop :=
  ∃ e ∈ entries, normalize e.1 = normalize id

instance (entries : List (String × String)) (id : String) : Decidable (IsKey entries id) :=
  inferInstanceAs (Decidable (∃ e ∈ entries, normalize e.1 = normalize id))

section Aliases

variable {entries : List (String × String)} {r r' : Registry} {id target : String}

theorem ruleSets_bind (id : String) (slot : Nat) (r : Registry) :
    (r.bind id slot).ruleSets = r.ruleSets := rfl

/-- An alias of something that is bound has its slot from then on. -/
theorem addAlias_eq_ok_iff :
    r.addAlias id target = .ok r' ↔
      ∃ slot, r.slot? target = some slot ∧ r.bind (normalize id) slot = r' := by
  rw [addAlias]
  cases r.slot? target <;> simp

theorem addAlias_eq_error_iff {e : Error} :
    r.addAlias id target = .error e ↔ r.slot? target = none ∧ .unknownLanguage target = e := by
  rw [addAlias]
  cases r.slot? target <;> simp

theorem addEntries_append_singleton_eq_ok_iff {e : String × String} :
    addEntries (entries ++ [e]) r = .ok r' ↔
      ∃ r₁, addEntries entries r = .ok r₁ ∧ r₁.addAlias e.1 e.2 = .ok r' := by
  rw [addEntries, foldlM_append_eq_ok_iff]
  refine exists_congr fun r₁ => and_congr_right fun _ => ?_
  rw [foldlM_cons_eq_ok_iff]
  simp [pure, Except.pure]

/-- Aliases have no rule sets of their own. -/
theorem ruleSets_addEntries (h : addEntries entries r = .ok r') : r'.ruleSets = r.ruleSets := by
  -- From the end, since the last alias is bound over what the others are bound to.
  induction entries using List.reverseRecOn generalizing r' with
  | nil =>
    cases h
    rfl
  | append_singleton entries e ih =>
    obtain ⟨r₁, h₁, h⟩ := addEntries_append_singleton_eq_ok_iff.1 h
    obtain ⟨slot, -, rfl⟩ := addAlias_eq_ok_iff.1 h
    rw [ruleSets_bind, ih h₁]

/-- What is no key of an alias stays where it is. -/
theorem slot?_addEntries_of_not_isKey (h : addEntries entries r = .ok r')
    (hid : ¬IsKey entries id) : r'.slot? id = r.slot? id := by
  induction entries using List.reverseRecOn generalizing r' with
  | nil =>
    cases h
    rfl
  | append_singleton entries e ih =>
    obtain ⟨r₁, h₁, h⟩ := addEntries_append_singleton_eq_ok_iff.1 h
    obtain ⟨slot, -, rfl⟩ := addAlias_eq_ok_iff.1 h
    have he : normalize e.1 ≠ normalize id := fun he => hid ⟨e, by simp, he⟩
    rw [slot?_bind, if_neg he, ih h₁ fun ⟨e', he', hkey⟩ => hid ⟨e', by simp [he'], hkey⟩]

/-- Behind aliases is bound what was bound before and their keys. -/
theorem isSome_slot?_addEntries (h : addEntries entries r = .ok r') :
    (r'.slot? id).isSome ↔ (r.slot? id).isSome ∨ IsKey entries id := by
  induction entries using List.reverseRecOn generalizing r' with
  | nil =>
    cases h
    simp [IsKey]
  | append_singleton entries e ih =>
    obtain ⟨r₁, h₁, h⟩ := addEntries_append_singleton_eq_ok_iff.1 h
    obtain ⟨slot, -, rfl⟩ := addAlias_eq_ok_iff.1 h
    have hkey : IsKey (entries ++ [e]) id ↔ IsKey entries id ∨ normalize e.1 = normalize id := by
      simp [IsKey, or_and_right, exists_or]
    rw [slot?_bind, hkey, ← or_assoc, ← ih h₁]
    by_cases he : normalize e.1 = normalize id <;> simp [he]

/-- **Aliases are added if and only if each target is bound before its turn.** -/
theorem exists_addEntries_iff :
    (∃ r', addEntries entries r = .ok r') ↔
      ∀ before e after, entries = before ++ e :: after →
        (r.slot? e.2).isSome ∨ IsKey before e.2 := by
  constructor
  · rintro ⟨r', h⟩ before e after rfl
    obtain ⟨r₁, hbefore, h⟩ := foldlM_append_eq_ok_iff.1 h
    obtain ⟨r₂, he, -⟩ := foldlM_cons_eq_ok_iff.1 h
    obtain ⟨slot, hslot, -⟩ := addAlias_eq_ok_iff.1 he
    rw [← isSome_slot?_addEntries hbefore, hslot]
    rfl
  · intro h
    cases hr : addEntries entries r with
    | ok r' => exact ⟨r', rfl⟩
    | error err =>
      -- It would fail at a target that nothing is bound to.
      obtain ⟨before, e, after, r₁, rfl, hbefore, he⟩ := foldlM_eq_error_iff.1 hr
      have hbound := h before e after rfl
      rw [← isSome_slot?_addEntries hbefore, (addAlias_eq_error_iff.1 he).1] at hbound
      cases hbound

/-- **An alias fails if its target is not bound, and those before it do not fail.** -/
theorem addEntries_eq_error_iff {err : Error} :
    addEntries entries r = .error err ↔
      ∃ before e after, entries = before ++ e :: after ∧ (∃ r₁, addEntries before r = .ok r₁) ∧
        ¬((r.slot? e.2).isSome ∨ IsKey before e.2) ∧ .unknownLanguage e.2 = err := by
  rw [addEntries, foldlM_eq_error_iff]
  simp only [addAlias_eq_error_iff]
  constructor
  · rintro ⟨before, e, after, r₁, hentries, hbefore, hslot, herr⟩
    refine ⟨before, e, after, hentries, ⟨r₁, hbefore⟩, ?_, herr⟩
    rw [← isSome_slot?_addEntries hbefore, hslot]
    simp
  · rintro ⟨before, e, after, hentries, ⟨r₁, hbefore⟩, hslot, herr⟩
    refine ⟨before, e, after, r₁, hentries, hbefore, ?_, herr⟩
    rw [← isSome_slot?_addEntries hbefore] at hslot
    simpa using hslot

end Aliases

end Config

end CodeMarkup
