import CodeMarkup.Proofs.Config.Outcome

/-!
# What an alias of a configuration means

The aliases of a configuration have their turns one after the other, and an alias is bound
to the slot that its target has at that moment. So it means what its target meant then
(`CodeMarkup.Config.resolve?_of_alias`), until another spelling of it has its turn. If neither the
alias nor the target is a key again later, both mean the same at the end.

A target that is a key again later may be taken away: in
`CodeMarkup.Config.resolve?_chained` an alias of one language stays with this language, while the
identifier that it was an alias of goes to another one.
-/

namespace CodeMarkup

open Registry hiding bind

namespace Config

variable {c : Config} {r : Registry} {id target : String} {before after : List (String × String)}

theorem exists_run_of_registryWith (h : c.registryWith before = .ok r) :
    ∃ log, empty.run log = r := by
  obtain ⟨r₀, h₀, hr⟩ := registryWith_eq_ok_iff.1 h
  obtain ⟨ops, -, hrun⟩ := exists_run_of_addLanguages h₀ hr
  exact ⟨_, hrun⟩

/-- Aliases in two parts are added one part after the other. -/
theorem registryWith_append_eq_ok_iff :
    c.registryWith (before ++ after) = .ok r ↔
      ∃ r₁, c.registryWith before = .ok r₁ ∧ addEntries after r₁ = .ok r := by
  simp only [registryWith_eq_ok_iff, addEntries, foldlM_append_eq_ok_iff]
  constructor
  · rintro ⟨r₀, h₀, r₁, h₁, h⟩
    exact ⟨r₁, ⟨r₀, h₀, h₁⟩, h⟩
  · rintro ⟨r₁, ⟨r₀, h₀, h₁⟩, h⟩
    exact ⟨r₀, h₀, r₁, h₁, h⟩

/-! ### What an alias is bound to -/

/-- **What is bound to the slot of an alias at the end**: the alias, if no later key is another
spelling of it, and the target, if no later key is one of it. -/
theorem exists_slot_of_alias (h : c.registryWith (before ++ (id, target) :: after) = .ok r) :
    ∃ r₁ slot set, c.registryWith before = .ok r₁ ∧ r₁.resolve? target = some (slot, set) ∧
      (¬IsKey after id → r.resolve? id = some (slot, set)) ∧
      (¬IsKey after target → r.resolve? target = some (slot, set)) := by
  obtain ⟨r₁, h₁, h⟩ := registryWith_append_eq_ok_iff.1 h
  obtain ⟨r₂, halias, hafter⟩ := foldlM_cons_eq_ok_iff.1 h
  obtain ⟨slot, hslot, rfl⟩ := addAlias_eq_ok_iff.1 halias
  -- A slot that is bound has a rule set, since the registry has a log.
  obtain ⟨log, rfl⟩ := exists_run_of_registryWith h₁
  obtain ⟨set, hresolve⟩ := exists_resolve?_run hslot
  have hplace : r.ruleSets[slot]? = some set := by
    rw [ruleSets_addEntries hafter]
    exact (resolve?_eq_some_iff.1 hresolve).2
  refine ⟨_, slot, set, h₁, hresolve, fun hkey => ?_, fun hkey => ?_⟩ <;>
    rw [resolve?_eq_some_iff, slot?_addEntries_of_not_isKey hafter hkey, slot?_bind]
  · exact ⟨if_pos rfl, hplace⟩
  · -- The alias may be a spelling of its target, and is bound to the same slot then.
    exact ⟨by rw [hslot, ite_self], hplace⟩

/-! ### Main statement -/

/-- **An alias means what its target means when its turn comes.** If no later key is another
spelling of the alias, it has the slot that the target had then; the target has it still
if and only if this is where the log binds it last, and it does if no later key is
another spelling of the target. -/
theorem resolve?_of_alias (hr : c.registry = .ok r)
    (he : c.aliases.entries = before ++ (id, target) :: after) :
    ∃ r₁ slot set log, c.registryWith before = .ok r₁ ∧ r₁.resolve? target = some (slot, set) ∧
      c.log = .ok log ∧
      (¬IsKey after id →
        r.resolve? id = some (slot, set) ∧
        (r.resolve? id = r.resolve? target ↔ LastBinds log target slot) ∧
        (¬IsKey after target → r.resolve? id = r.resolve? target)) := by
  obtain ⟨log, hlog, hrun⟩ := exists_log_of_registry hr
  have hr' : c.registryWith (before ++ (id, target) :: after) = .ok r := he ▸ hr
  obtain ⟨r₁, slot, set, h₁, hresolve, hid, htarget⟩ := exists_slot_of_alias hr'
  refine ⟨r₁, slot, set, log, h₁, hresolve, hlog, fun hkey => ⟨hid hkey, ?_, fun hkey' => ?_⟩⟩
  · obtain ⟨-, hplace⟩ := resolve?_eq_some_iff.1 (hid hkey)
    rw [hid hkey, eq_comm, resolve?_eq_some_iff, and_iff_left hplace, ← hrun]
    exact slot?_run
  · rw [hid hkey, htarget hkey']

/-- A configuration with an alias of an alias, in other spellings, and more aliases behind it. -/
def nested : Config :=
  ⟨.default, ⟨[("Vue", " HTML "), ("svelte", "vue"), ("theme", "css"), ("web", "vue")],
    by decide⟩, []⟩

/-- The registry of the configuration. -/
def nestedRegistry : Registry :=
  (((Registry.builtin.bind "vue" 1).bind "svelte" 1).bind "theme" 2).bind "web" 1

/-- An alias whose target is an alias has the slot of documents, and so has its target; the keys
whose turns come later are other ones. -/
theorem resolve?_of_alias_svelte :
    nested.registry = .ok nestedRegistry ∧
      nested.aliases.entries =
        [("Vue", " HTML ")] ++ ("svelte", "vue") :: [("theme", "css"), ("web", "vue")] ∧
      ¬IsKey [("theme", "css"), ("web", "vue")] "svelte" ∧
      ¬IsKey [("theme", "css"), ("web", "vue")] "vue" ∧
      nestedRegistry.resolve? "svelte" = nestedRegistry.resolve? "vue" := by
  have hregistry : nested.registry = .ok nestedRegistry := by rfl
  have hentries : nested.aliases.entries =
      [("Vue", " HTML ")] ++ ("svelte", "vue") :: [("theme", "css"), ("web", "vue")] := rfl
  have halias : ¬IsKey [("theme", "css"), ("web", "vue")] "svelte" := by decide
  have htarget : ¬IsKey [("theme", "css"), ("web", "vue")] "vue" := by decide
  obtain ⟨_, _, _, _, -, -, -, h⟩ := resolve?_of_alias hregistry hentries
  exact ⟨hregistry, hentries, halias, htarget, (h halias).2.2 htarget⟩

/-! ### A target that goes to another language -/

/-- A configuration with an alias of documents, and with documents as an alias of scripts, whose
turn comes later. -/
def chained : Config := ⟨.default, ⟨[("a", "html"), ("html", "js")], by decide⟩, []⟩

/-- The registry of the configuration. -/
def chainedRegistry : Registry := (Registry.builtin.bind "a" 1).bind "html" 0

/-- **An alias does not follow its target.** The configuration is sound and has a registry, in
which the alias has the slot of documents, and its target that of scripts. -/
theorem resolve?_chained :
    chained.validate = .ok () ∧ chained.registry = .ok chainedRegistry ∧
      ("a", "html") ∈ chained.aliases.entries ∧
      chainedRegistry.resolve? "a" = some (1, Language.document) ∧
      chainedRegistry.resolve? "html" = some (0, Language.script) ∧
      chainedRegistry.resolve? "a" ≠ chainedRegistry.resolve? "html" := by
  have ha : chainedRegistry.resolve? "a" = some (1, Language.document) := by rfl
  have hhtml : chainedRegistry.resolve? "html" = some (0, Language.script) := by rfl
  refine ⟨by decide, by rfl, List.mem_cons_self, ha, hhtml, fun h => ?_⟩
  rw [ha, hhtml] at h
  cases h

end Config

end CodeMarkup
