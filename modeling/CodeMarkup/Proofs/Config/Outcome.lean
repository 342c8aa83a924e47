import CodeMarkup.Config.Toml
import CodeMarkup.Proofs.Config.Phases

/-!
# What comes of building a configuration

For every configuration, checked or not, what comes of building it can be read off its
patterns and identifiers (`CodeMarkup.Config.buildingOutcome`):

* building succeeds if all patterns write expressions and the target of each alias is bound
  before its turn; otherwise the error is a bad pattern, whatever the aliases are, and then
  the first target that is not bound;
* if it succeeds, each language has the slot of its place, and an identifier that is no key
  of an alias belongs to the last language that names it, or else to whom it belongs without
  a configuration;
* the settings are looked at only after that, and those of a configuration that was read
  from a text are never to blame.

What carries all of this is that the identifiers that are bound before the turn of an alias are
those that are *known* then (`CodeMarkup.Config.isSome_slot?_registryWith`).
-/

namespace CodeMarkup

open Registry hiding bind

/-! ### What is bound without a configuration -/

namespace Registry

theorem length_ruleSets_builtin : builtin.ruleSets.length = 3 := rfl

theorem isSome_slot?_builtin {id : String} :
    (builtin.slot? id).isSome ↔ normalize id ∈ builtin.identifiers := by
  have htidy : builtin.Tidy := run_builtinLog ▸ tidy_run builtinLog
  rw [htidy.mem_identifiers, Option.isSome_iff_exists]
  constructor
  · rintro ⟨slot, hslot⟩
    exact ⟨id, slot, rfl, hslot⟩
  · rintro ⟨key, slot, hkey, hslot⟩
    exact ⟨slot, by rwa [slot?, ← hkey]⟩

theorem lt_length_of_slot?_builtin {id : String} {slot : Nat} (h : builtin.slot? id = some slot) :
    slot < builtin.ruleSets.length := by
  rw [← run_builtinLog] at h
  exact (slot?_run.1 h).lt_length

/-- More rule sets behind those that are always there change nothing for an identifier that has
its slot still. -/
theorem resolve?_eq_resolve?_builtin {r : Registry} {id : String} {sets : List RuleSet}
    (hsets : r.ruleSets = builtin.ruleSets ++ sets) (hslot : r.slot? id = builtin.slot? id) :
    r.resolve? id = builtin.resolve? id := by
  rw [resolve?, resolve?, hslot]
  cases hid : builtin.slot? id with
  | none => rfl
  | some slot =>
    rw [Option.bind_some, Option.bind_some, hsets,
      List.getElem?_append_left (lt_length_of_slot?_builtin hid)]

end Registry

/-! ### Configurations -/

namespace Config

/-- That all patterns of a configuration write expressions. -/
def PatternsCompile (c : Config) : Prop := ∀ l ∈ c.languages, l.PatternsCompile

/-- That an identifier is bound behind the languages of a configuration and some of its aliases:
without a configuration, by a language, or as a key. -/
def Knows (c : Config) (entries : List (String × String)) (id : String) : Prop :=
  normalize id ∈ builtin.identifiers ∨ (∃ l ∈ c.languages, l.Names id) ∨ IsKey entries id

/-- That the target of each alias of a list is known when its turn comes. -/
def TargetsKnown (c : Config) (entries : List (String × String)) : Prop :=
  ∀ before e after, entries = before ++ e :: after → c.Knows before e.2

/-- The registry of a configuration with the aliases of a list and no others. With all of its own
aliases this is the registry of the configuration. -/
def registryWith (c : Config) (entries : List (String × String)) : Except Error Registry :=
  (addLanguages c.languages .builtin).bind (addEntries entries)

variable {c : Config} {entries : List (String × String)} {r : Registry} {id : String}

theorem registryWith_eq_ok_iff :
    c.registryWith entries = .ok r ↔
      ∃ r₀, addLanguages c.languages .builtin = .ok r₀ ∧ addEntries entries r₀ = .ok r :=
  bind_eq_ok_iff

theorem knows_iff {r₀ : Registry} (h : addLanguages c.languages .builtin = .ok r₀) :
    (r₀.slot? id).isSome ∨ IsKey entries id ↔ c.Knows entries id := by
  rw [isSome_slot?_addLanguages h, isSome_slot?_builtin, or_assoc, Knows]

/-- What is known is what is bound. -/
theorem isSome_slot?_registryWith (h : c.registryWith entries = .ok r) :
    (r.slot? id).isSome ↔ c.Knows entries id := by
  obtain ⟨r₀, h₀, hr⟩ := registryWith_eq_ok_iff.1 h
  rw [isSome_slot?_addEntries hr, knows_iff h₀]

theorem exists_addEntries_iff_targetsKnown {r₀ : Registry}
    (h : addLanguages c.languages .builtin = .ok r₀) :
    (∃ r, addEntries entries r₀ = .ok r) ↔ c.TargetsKnown entries := by
  simp only [exists_addEntries_iff, knows_iff h, TargetsKnown]

/-- **When a configuration can be built.** -/
theorem exists_registryWith_iff :
    (∃ r, c.registryWith entries = .ok r) ↔ c.PatternsCompile ∧ c.TargetsKnown entries := by
  rw [PatternsCompile, ← exists_addLanguages_iff (r := .builtin)]
  simp only [registryWith_eq_ok_iff]
  constructor
  · rintro ⟨r, r₀, h₀, hr⟩
    exact ⟨⟨r₀, h₀⟩, (exists_addEntries_iff_targetsKnown h₀).1 ⟨r, hr⟩⟩
  · rintro ⟨⟨r₀, h₀⟩, hknown⟩
    obtain ⟨r, hr⟩ := (exists_addEntries_iff_targetsKnown h₀).2 hknown
    exact ⟨r, r₀, h₀, hr⟩

/-- **How it fails if it cannot**: by a bad pattern, or else by the first target that is not
known. -/
theorem registryWith_eq_error_iff {err : Error} :
    c.registryWith entries = .error err ↔
      ¬c.PatternsCompile ∧ addLanguages c.languages .builtin = .error err ∨
        c.PatternsCompile ∧ ∃ before e after, entries = before ++ e :: after ∧
          c.TargetsKnown before ∧ ¬c.Knows before e.2 ∧ .unknownLanguage e.2 = err := by
  have hcompile : (∃ r₀, addLanguages c.languages .builtin = .ok r₀) ↔ c.PatternsCompile :=
    exists_addLanguages_iff
  -- The aliases have their turn only if the languages could be registered.
  cases h₀ : addLanguages c.languages .builtin with
  | error err' =>
    have hbad : ¬c.PatternsCompile := by
      rw [← hcompile, h₀]
      rintro ⟨r₀, h⟩
      cases h
    simp [registryWith, h₀, hbad, Except.bind]
  | ok r₀ =>
    have hgood : c.PatternsCompile := hcompile.1 ⟨r₀, h₀⟩
    simp only [registryWith, h₀, Except.bind, addEntries_eq_error_iff,
      exists_addEntries_iff_targetsKnown h₀, knows_iff h₀]
    simp [hgood]

/-- The languages fail with a bad pattern only. -/
theorem exists_invalidPattern_iff :
    (∃ p, c.registryWith entries = .error (.invalidPattern p)) ↔ ¬c.PatternsCompile := by
  simp only [registryWith_eq_error_iff]
  constructor
  · rintro ⟨p, ⟨hbad, -⟩ | ⟨-, before, e, after, -, -, -, heq⟩⟩
    · exact hbad
    · cases heq
  · intro hbad
    cases h₀ : addLanguages c.languages .builtin with
    | error err =>
      obtain ⟨p, rfl⟩ := error_of_addLanguages h₀
      exact ⟨p, .inl ⟨hbad, rfl⟩⟩
    | ok r₀ => exact absurd (exists_addLanguages_iff.1 ⟨r₀, h₀⟩) hbad

/-- Without a bad pattern the first target that is not known is told. -/
theorem registryWith_eq_unknownLanguage_iff {target : String} :
    c.registryWith entries = .error (.unknownLanguage target) ↔
      c.PatternsCompile ∧ ∃ before id after, entries = before ++ (id, target) :: after ∧
        c.TargetsKnown before ∧ ¬c.Knows before target := by
  rw [registryWith_eq_error_iff]
  constructor
  · rintro (⟨-, h₀⟩ | ⟨hgood, before, ⟨id, target'⟩, after, hentries, hknown, hunknown, heq⟩)
    · obtain ⟨p, heq⟩ := error_of_addLanguages h₀
      cases heq
    · cases heq
      exact ⟨hgood, before, id, after, hentries, hknown, hunknown⟩
  · rintro ⟨hgood, before, id, after, hentries, hknown, hunknown⟩
    exact .inr ⟨hgood, before, (id, target), after, hentries, hknown, hunknown, rfl⟩

/-- There are two kinds of errors. -/
theorem error_of_registryWith {err : Error} (h : c.registryWith entries = .error err) :
    (∃ p, err = .invalidPattern p) ∨ ∃ target, err = .unknownLanguage target := by
  rcases registryWith_eq_error_iff.1 h with ⟨-, h₀⟩ | ⟨-, before, e, after, -, -, -, rfl⟩
  · exact .inl (error_of_addLanguages h₀)
  · exact .inr ⟨e.2, rfl⟩

/-! ### What is bound afterwards -/

/-- What a configuration does not name is what it is without one. -/
theorem resolve?_of_unnamed (h : c.registryWith entries = .ok r)
    (hlanguages : ∀ l ∈ c.languages, ¬l.Names id) (hkey : ¬IsKey entries id) :
    r.resolve? id = builtin.resolve? id := by
  obtain ⟨r₀, h₀, hr⟩ := registryWith_eq_ok_iff.1 h
  obtain ⟨sets, -, hsets⟩ := ruleSets_addLanguages h₀
  have hsame : r.ruleSets = builtin.ruleSets ++ sets := by
    rw [ruleSets_addEntries hr, hsets]
  refine resolve?_eq_resolve?_builtin hsame ?_
  rw [slot?_addEntries_of_not_isKey hr hkey, slot?_addLanguages_of_forall_not h₀ hlanguages]

/-- **A language has the slot of its place**, behind the three that are always there, and has what
it is the last one to name. -/
theorem exists_set_of_registryWith (h : c.registryWith entries = .ok r)
    {before after : List LanguageDef} {l : LanguageDef}
    (hl : c.languages = before ++ l :: after) :
    ∃ set, l.compile = .ok set ∧ r.ruleSets[3 + before.length]? = some set ∧
      ∀ id, l.Names id → (∀ l' ∈ after, ¬l'.Names id) → ¬IsKey entries id →
        r.resolve? id = some (3 + before.length, set) := by
  obtain ⟨r₀, h₀, hr⟩ := registryWith_eq_ok_iff.1 h
  rw [hl] at h₀
  obtain ⟨set, hset, hplace, hslot⟩ := exists_of_addLanguages_append h₀
  rw [length_ruleSets_builtin] at hplace hslot
  have hplace' : r.ruleSets[3 + before.length]? = some set := by
    rw [ruleSets_addEntries hr, hplace]
  refine ⟨set, hset, hplace', fun id hid hlater hkey => ?_⟩
  rw [resolve?_eq_some_iff, slot?_addEntries_of_not_isKey hr hkey]
  exact ⟨hslot id hid hlater, hplace'⟩

/-- Among the members of a list with a property there is a last one. -/
theorem exists_last {α : Type} {p : α → Prop} {as : List α} (h : ∃ a ∈ as, p a) :
    ∃ before a after, as = before ++ a :: after ∧ p a ∧ ∀ b ∈ after, ¬p b := by
  induction as with
  | nil =>
    obtain ⟨a, ha, -⟩ := h
    cases ha
  | cons a as ih =>
    by_cases hlater : ∃ b ∈ as, p b
    · obtain ⟨before, b, after, rfl, hb, hafter⟩ := ih hlater
      exact ⟨a :: before, b, after, rfl, hb, hafter⟩
    · push Not at hlater
      obtain ⟨b, hb, hpb⟩ := h
      rcases List.mem_cons.1 hb with rfl | hb
      · exact ⟨[], b, as, rfl, hpb, hlater⟩
      · exact absurd hpb (hlater b hb)

/-! ### Settings -/

/-- The settings are looked at if there is a registry, and not before. -/
theorem highlighter_eq_error_iff {err : Error} :
    c.highlighter = .error err ↔
      c.registry = .error err ∨
        (∃ r, c.registry = .ok r) ∧ ∃ f, c.settings.validate = .error f ∧ .invalidConfig f = err := by
  rw [highlighter]
  cases c.registry with
  | error err' => simp [Except.bind]
  | ok r =>
    simp only [Except.bind, Highlighter.make]
    cases c.settings.validate <;> simp

/-- What was read has sound settings. -/
theorem validate_settings_of_ofToml {text : Text} (h : ofToml text = .ok c) :
    c.settings.validate = .ok () := by
  unfold ofToml at h
  split at h
  · cases h
  · split at h
    · next hvalid =>
      cases h
      unfold validate at hvalid
      cases hs : c.settings.validate with
      | error f => simp [hs, bind, Except.bind] at hvalid
      | ok u => rfl
    · cases h

/-! ### Main statement -/

/-- What comes of building a configuration. -/
structure BuildingOutcome (c : Config) : Prop where
  /-- The aliases have their turns in the order of the bytes of their keys. -/
  keys_ascend : c.aliases.entries.Pairwise fun a b => bytes a.1 < bytes b.1
  /-- Building succeeds if and only if all patterns write expressions and each target is known
  when its turn comes. -/
  succeeds_iff : (∃ r, c.registry = .ok r) ↔
    c.PatternsCompile ∧ c.TargetsKnown c.aliases.entries
  /-- The error is a bad pattern if and only if there is one, whatever the aliases are. -/
  invalidPattern_iff : (∃ p, c.registry = .error (.invalidPattern p)) ↔ ¬c.PatternsCompile
  /-- The error is an unknown target if and only if there is no bad pattern, and this is the first
  target that is not known when its turn comes. -/
  unknownLanguage_iff : ∀ target, c.registry = .error (.unknownLanguage target) ↔
    c.PatternsCompile ∧ ∃ before id after, c.aliases.entries = before ++ (id, target) :: after ∧
      c.TargetsKnown before ∧ ¬c.Knows before target
  /-- There are no other errors. -/
  error_kinds : ∀ e, c.registry = .error e →
    (∃ p, e = .invalidPattern p) ∨ ∃ target, e = .unknownLanguage target
  /-- What is bound afterwards is what is known behind all aliases. -/
  bound_iff : ∀ r, c.registry = .ok r → ∀ id,
    (r.slot? id).isSome ↔ c.Knows c.aliases.entries id
  /-- An identifier that the configuration does not name is what it is without one. -/
  unnamed : ∀ r, c.registry = .ok r → ∀ id, (∀ l ∈ c.languages, ¬l.Names id) →
    ¬IsKey c.aliases.entries id → r.resolve? id = builtin.resolve? id
  /-- The language behind `before` has the slot behind the three that are always there and those
  of `before`. -/
  slot_of_language : ∀ r, c.registry = .ok r → ∀ before l after,
    c.languages = before ++ l :: after →
      ∃ set, l.compile = .ok set ∧ r.ruleSets[3 + before.length]? = some set
  /-- An identifier that languages name, and no key of an alias, belongs to the last of them. -/
  last_language : ∀ r, c.registry = .ok r → ∀ id, (∃ l ∈ c.languages, l.Names id) →
    ¬IsKey c.aliases.entries id →
      ∃ before l after set, c.languages = before ++ l :: after ∧ l.Names id ∧
        (∀ l' ∈ after, ¬l'.Names id) ∧ l.compile = .ok set ∧
        r.resolve? id = some (3 + before.length, set)
  /-- Making a highlighter fails with the error of the registry, and for the settings only if there
  is none. -/
  highlighter_fails_iff : ∀ e, c.highlighter = .error e ↔
    c.registry = .error e ∨
      (∃ r, c.registry = .ok r) ∧ ∃ f, c.settings.validate = .error f ∧ .invalidConfig f = e
  /-- With a configuration that was read from a text it does not fail for the settings. -/
  highlighter_of_ofToml : ∀ text, ofToml text = .ok c → ∀ f, c.highlighter ≠ .error (.invalidConfig f)

/-- **What comes of building a configuration**, whatever it is. -/
theorem buildingOutcome (c : Config) : BuildingOutcome c := by
  constructor
  case keys_ascend => exact c.aliases.ascending.imp bytes_lt_bytes
  case succeeds_iff => exact exists_registryWith_iff
  case invalidPattern_iff => exact exists_invalidPattern_iff
  case unknownLanguage_iff => exact fun _ => registryWith_eq_unknownLanguage_iff
  case error_kinds => exact fun _ h => error_of_registryWith h
  case bound_iff => exact fun r hr id => isSome_slot?_registryWith hr
  case unnamed => exact fun r hr id hlanguages hkey => resolve?_of_unnamed hr hlanguages hkey
  case slot_of_language =>
    intro r hr before l after hl
    obtain ⟨set, hset, hplace, -⟩ := exists_set_of_registryWith hr hl
    exact ⟨set, hset, hplace⟩
  case last_language =>
    intro r hr id hnamed hkey
    obtain ⟨before, l, after, hl, hid, hlater⟩ := exists_last hnamed
    obtain ⟨set, hset, -, hresolve⟩ := exists_set_of_registryWith hr hl
    exact ⟨before, l, after, set, hl, hid, hlater, hset, hresolve id hid hlater hkey⟩
  case highlighter_fails_iff => exact fun _ => highlighter_eq_error_iff
  case highlighter_of_ofToml =>
    intro text htext f hf
    -- No registry fails for the settings, and settings that were read do not fail.
    rcases highlighter_eq_error_iff.1 hf with hregistry | ⟨-, f', hf', -⟩
    · rcases error_of_registryWith hregistry with ⟨p, heq⟩ | ⟨target, heq⟩ <;> cases heq
    · rw [validate_settings_of_ofToml htext] at hf'
      cases hf'

end Config

end CodeMarkup
