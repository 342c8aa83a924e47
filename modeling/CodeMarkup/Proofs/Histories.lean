import CodeMarkup.Config
import CodeMarkup.Proofs.Cache.Freshness

/-!
# Histories of a highlighter

A highlighter is used by a row of calls (`CodeMarkup.Highlighter.Call`), and all that a
call leaves behind is in the cache: settings and languages stay as they are. The
invariant is that the cache tells the truth (`CodeMarkup.Highlighter.Coherent`): each
entry holds the markup that its text has under the rule set of its slot. A new
highlighter has an empty cache, and a call puts true entries in, moves entries or
takes them away.

So **what is given back does not depend on what came before**
(`CodeMarkup.Highlighter.Coherent.fst_highlight`): it is the markup under the rule set
that applies to the text (`CodeMarkup.Highlighter.applied?`), or the escaped text if
none does.
-/

namespace CodeMarkup

namespace Highlighter

/-! ### Calls -/

/-- A call of a highlighter. -/
inductive Call where
  /-- To highlight a text in a language. -/
  | highlight (text : Text) (language : String)
  /-- To empty the cache. -/
  | forget

/-- The highlighter after a call. -/
def call (h : Highlighter) : Call → Highlighter
  | .highlight text language => (h.highlight text language).2
  | .forget => h.forget

/-- The highlighter after a row of calls. -/
def run (h : Highlighter) (calls : List Call) : Highlighter := calls.foldl call h

/-- The rule set that applies to a text in a language; none if the text is only escaped. -/
def applied? (h : Highlighter) (text : Text) (language : String) : Option RuleSet :=
  if text = [] ∨ h.settings.maxBytes < byteSize text then none
  else (h.rules? language).map (·.2)

/-! ### The invariant -/

/-- That an entry holds the markup of its text under the rule set of its slot. -/
def Tells (h : Highlighter) (e : CacheEntry) : Prop :=
  ∃ set, h.registry.ruleSets[e.slot]? = some set ∧ e.markup = render h.settings set e.text

/-- That each entry of the cache tells the truth. -/
def Coherent (h : Highlighter) : Prop :=
  ∀ cache, h.cache = some cache → ∀ e ∈ cache.entries, h.Tells e

/-- A new highlighter has nothing in its cache. -/
theorem coherent_assemble (digest : Nat → Text → UInt64) (settings : Settings)
    (registry : Registry) : (assemble digest settings registry).Coherent := by
  intro cache hcache e he
  simp only [assemble] at hcache
  split at hcache
  · cases hcache
    cases he
  · cases hcache

variable {h : Highlighter}

theorem getElem?_of_rules? {language : String} {slot : Nat} {set : RuleSet}
    (hr : h.rules? language = some (slot, set)) : h.registry.ruleSets[slot]? = some set :=
  (Registry.resolve?_eq_some_iff.1 (Option.filter_eq_some_iff.1 hr).1).2

/-- A rule set that applies to a text is the one of the language. -/
theorem exists_rules?_of_applied? {text : Text} {language : String} {set : RuleSet}
    (ha : h.applied? text language = some set) : ∃ slot, h.rules? language = some (slot, set) := by
  unfold applied? at ha
  split at ha
  · cases ha
  · obtain ⟨⟨slot, set'⟩, hr, rfl⟩ := Option.map_eq_some_iff.1 ha
    exact ⟨slot, hr⟩

/-- **What is given back** is the markup under the rule set that applies, or else the escaped
text; what stands in the cache does not matter. -/
theorem Coherent.fst_highlight (hc : h.Coherent) (text : Text) (language : String) :
    (h.highlight text language).1 =
      match h.applied? text language with
      | some set => render h.settings set text
      | none => Markup.escape text := by
  unfold highlight applied?
  cases text with
  | nil => rfl
  | cons c text =>
    simp only [List.isEmpty_cons, reduceCtorEq, false_or, Bool.false_eq_true, if_false]
    cases hr : h.rules? language with
    | none => simp
    | some found =>
      obtain ⟨slot, set⟩ := found
      dsimp only
      by_cases hlong : h.settings.maxBytes < byteSize (c :: text)
      · simp [hlong]
      · cases hcache : h.cache with
        | none => simp [hlong]
        | some cache =>
          cases hget : cache.get slot (c :: text) with
          | mk found cache' =>
            cases found with
            | none => simp [hlong, hget]
            | some markup =>
              -- The entry that is found is one for the same slot and text.
              obtain ⟨e, he, rfl, htext, rfl⟩ := Cache.exists_of_get (congrArg Prod.fst hget)
              obtain ⟨set', hset', hmarkup⟩ := hc cache hcache e he
              obtain rfl : set = set' := by
                simpa [getElem?_of_rules? hr] using hset'
              simp [hlong, hget, hmarkup, htext]

/-- **What a text that is highlighted leaves behind**: nothing, or the cache after a look at
it, perhaps with the new markup in front. -/
theorem snd_highlight (h : Highlighter) (text : Text) (language : String) :
    (h.highlight text language).2 = h ∨
      ∃ cache slot set, h.cache = some cache ∧ h.rules? language = some (slot, set) ∧
        ((h.highlight text language).2 =
            { h with cache := some (cache.touch (cache.digest slot text)) } ∨
          (h.highlight text language).2 =
            { h with cache := some ((cache.touch (cache.digest slot text)).insert slot text
              (render h.settings set text)) }) := by
  unfold highlight
  split
  · exact .inl rfl
  · split
    · exact .inl rfl
    · next slot set hr =>
      split
      · exact .inl rfl
      · split
        · exact .inl rfl
        · next cache hcache =>
          refine .inr ⟨cache, slot, set, hcache, hr, ?_⟩
          split
          · next markup cache' hget =>
            obtain rfl : cache.touch (cache.digest slot text) = cache' := congrArg Prod.snd hget
            exact .inl rfl
          · next cache' hget =>
            obtain rfl : cache.touch (cache.digest slot text) = cache' := congrArg Prod.snd hget
            exact .inr rfl

/-- **A call changes the cache only.** -/
theorem call_eq (h : Highlighter) (k : Call) : ∃ cache, h.call k = { h with cache } := by
  cases k with
  | forget => exact ⟨_, rfl⟩
  | highlight text language =>
    rcases h.snd_highlight text language with he | ⟨_, _, _, _, _, he | he⟩
    · exact ⟨h.cache, he⟩
    · exact ⟨_, he⟩
    · exact ⟨_, he⟩

/-- **A call keeps the cache true.** -/
theorem Coherent.call (hc : h.Coherent) (k : Call) : (h.call k).Coherent := by
  cases k with
  | forget =>
    rintro cache' hcache' e he
    obtain ⟨cache, -, rfl⟩ := Option.map_eq_some_iff.1 hcache'
    cases he
  | highlight text language =>
    change (h.highlight text language).2.Coherent
    rcases h.snd_highlight text language with heq | ⟨cache, slot, set, hcache, hr, heq | heq⟩ <;>
      rw [heq]
    · exact hc
    · rintro _ ⟨⟩ e he
      exact hc cache hcache e (Cache.mem_of_mem_touch he)
    · rintro _ ⟨⟩ e he
      rcases Cache.mem_insert he with rfl | ⟨he, -⟩
      · exact ⟨set, getElem?_of_rules? hr, rfl⟩
      · exact hc cache hcache e (Cache.mem_of_mem_touch he)

/-! ### Rows of calls -/

/-- **A row of calls changes the cache only.** -/
theorem run_eq (h : Highlighter) (calls : List Call) : ∃ cache, h.run calls = { h with cache } := by
  induction calls generalizing h with
  | nil => exact ⟨h.cache, rfl⟩
  | cons k calls ih =>
    obtain ⟨cache, hk⟩ := h.call_eq k
    obtain ⟨cache', hrun⟩ := ih (h.call k)
    exact ⟨cache', by rw [run, List.foldl_cons, ← run, hrun, hk]⟩

/-- **A row of calls keeps the cache true.** -/
theorem Coherent.run (hc : h.Coherent) (calls : List Call) : (h.run calls).Coherent := by
  induction calls generalizing h with
  | nil => exact hc
  | cons k calls ih => exact ih (hc.call k)

/-- **What is given back does not depend on what came before.** -/
theorem Coherent.fst_highlight_run (hc : h.Coherent) (calls : List Call) (text : Text)
    (language : String) :
    ((h.run calls).highlight text language).1 =
      match h.applied? text language with
      | some set => render h.settings set text
      | none => Markup.escape text := by
  have hafter := (hc.run calls).fst_highlight text language
  obtain ⟨cache, hrun⟩ := h.run_eq calls
  rw [hrun] at hafter ⊢
  exact hafter

end Highlighter

end CodeMarkup
