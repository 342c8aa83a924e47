import CodeMarkup.Config
import CodeMarkup.Proofs.Computations
import CodeMarkup.Proofs.Languages

/-!
# What a registry holds

A rule set is *ordinary* (`CodeMarkup.RuleSet.Ordinary`) if it is one of the three
languages or if all of its rules wrap their matches, and a registry is ordinary if all
of its rule sets are. This is what registering, aliases and configurations give:
**the registry of a configuration is ordinary**
(`CodeMarkup.Config.ordinary_registry`), since a rule of a configuration has a class
and no emitter of its own.
-/

namespace CodeMarkup

/-- That a rule set is one of the three languages, or has rules that wrap their matches only. -/
def RuleSet.Ordinary (set : RuleSet) : Prop := set ∈ Language.ruleSets ∨ set.Wraps

/-- **The rules of an ordinary set spell out their matches.** -/
theorem RuleSet.Ordinary.spells {set : RuleSet} (h : set.Ordinary) : set.Spells := by
  rcases h with h | h
  · exact fun rule hrule => (Language.keepsEntities_of_mem_ruleSets h rule hrule).1
  · exact h.spells

namespace Registry

/-- That all rule sets are ordinary. -/
def Ordinary (r : Registry) : Prop := ∀ set ∈ r.ruleSets, set.Ordinary

variable {r r' : Registry}

theorem ruleSets_register (set : RuleSet) (ids : List String) (r : Registry) :
    (r.register set ids).ruleSets = r.ruleSets ++ [set] := by
  have hbind : ∀ (slot : Nat) (r' : Registry),
      (ids.foldl (fun r' id => r'.bind (normalize id) slot) r').ruleSets = r'.ruleSets := by
    intro slot
    induction ids with
    | nil => exact fun _ => rfl
    | cons id ids ih => exact fun r' => ih (r'.bind (normalize id) slot)
  exact hbind r.ruleSets.length _

theorem Ordinary.of_resolve? (h : r.Ordinary) {id : String} {slot : Nat} {set : RuleSet}
    (hr : r.resolve? id = some (slot, set)) : set.Ordinary :=
  h set (List.mem_of_getElem? (resolve?_eq_some_iff.1 hr).2)

theorem ordinary_empty : empty.Ordinary := fun _ h => absurd h List.not_mem_nil

theorem Ordinary.register (h : r.Ordinary) {set : RuleSet} (hset : set.Ordinary)
    (ids : List String) : (r.register set ids).Ordinary := by
  intro set' hset'
  rw [ruleSets_register, List.mem_append, List.mem_singleton] at hset'
  rcases hset' with hset' | rfl
  · exact h set' hset'
  · exact hset

theorem Ordinary.addAlias (h : r.Ordinary) {id target : String}
    (hr : r.addAlias id target = .ok r') : r'.Ordinary := by
  unfold Registry.addAlias at hr
  split at hr
  · cases hr
    exact h
  · cases hr

/-- The three languages are there without a configuration. -/
theorem ordinary_builtin : builtin.Ordinary :=
  have hmem : ∀ set, set ∈ Language.ruleSets → set.Ordinary := fun _ => .inl
  ((ordinary_empty.register (hmem _ (by simp [Language.ruleSets])) _).register
    (hmem _ (by simp [Language.ruleSets])) _).register (hmem _ (by simp [Language.ruleSets])) _

/-- **A language that has just been registered is found**, whatever had its identifier before. -/
theorem resolve?_register_self (set : RuleSet) (id : String) (r : Registry) :
    (r.register set [id]).resolve? id = some (r.ruleSets.length, set) := by
  have hslot : (r.register set [id]).slot? id = some r.ruleSets.length := by
    simp [Registry.register, bind, slot?]
  simp [resolve?, hslot, ruleSets_register]

end Registry

/-! ### Configurations -/

/-- **The rules of a configuration wrap their matches.** -/
theorem LanguageDef.wraps_of_compile {l : LanguageDef} {set : RuleSet} (h : l.compile = .ok set) :
    set.Wraps := by
  unfold LanguageDef.compile at h
  split at h
  · next rules hrules =>
    cases h
    intro rule hrule
    obtain ⟨def_, -, hdef⟩ := exists_mem_of_mapM hrules hrule
    obtain ⟨re, -, rfl⟩ := map_eq_ok_iff.1 hdef
    exact ⟨def_.spanClass, rfl⟩
  · cases h

namespace Config

theorem ordinary_addLanguages {languages : List LanguageDef} {r r' : Registry} (h : r.Ordinary)
    (hr : addLanguages languages r = .ok r') : r'.Ordinary := by
  refine foldlM_invariant (fun r l r' h hr => ?_) h hr
  obtain ⟨set, hl, rfl⟩ := map_eq_ok_iff.1 hr
  exact h.register (.inr (LanguageDef.wraps_of_compile hl)) l.identifiers

theorem ordinary_addAliases {aliases : AliasTable} {r r' : Registry} (h : r.Ordinary)
    (hr : addAliases aliases r = .ok r') : r'.Ordinary :=
  foldlM_invariant (fun _ _ _ h hr => h.addAlias hr) h hr

/-- **The registry of a configuration is ordinary.** -/
theorem ordinary_registry {c : Config} {r : Registry} (h : c.registry = .ok r) : r.Ordinary := by
  obtain ⟨r₁, hl, h⟩ := bind_eq_ok_iff.1 h
  exact ordinary_addAliases (ordinary_addLanguages Registry.ordinary_builtin hl) h

/-! ### One language -/

/-- A language with one rule, whose pattern writes an expression that is not too large. -/
theorem compile_of_writtenAs {id name source : String} {aliases : List String} {e : Regex.Expr}
    {k : SpanClass} (h : Language.WrittenAs source e) (hl : e.withinLimit) :
    (⟨id, aliases, [⟨name, source, k⟩]⟩ : LanguageDef).compile =
      .ok ⟨Registry.normalize id, [⟨name, Language.pattern source e, .wrap k⟩]⟩ := by
  have hrule : Rule.ofClass name source k = .ok ⟨name, Language.pattern source e, .wrap k⟩ := by
    rw [Rule.ofClass, Language.compile_of_writtenAs h hl]
    rfl
  simp only [LanguageDef.compile, List.mapM_cons, hrule]
  rfl

/-- The registry of a configuration with one language and no aliases. -/
theorem registry_of_compile {settings : Settings} {l : LanguageDef} {set : RuleSet}
    (h : l.compile = .ok set) :
    (⟨settings, .empty, [l]⟩ : Config).registry =
      .ok (Registry.builtin.register set l.identifiers) := by
  have hlanguages : addLanguages [l] .builtin =
      .ok (Registry.builtin.register set l.identifiers) := by
    simp only [addLanguages, List.foldlM_cons, h]
    rfl
  rw [registry, hlanguages]
  rfl

end Config

end CodeMarkup
