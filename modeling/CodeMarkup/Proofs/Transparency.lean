import CodeMarkup.Proofs.Histories
import Mathlib.Data.List.Induction

/-!
# The cache cannot be noticed

Between two documents a highlighter may be asked for anything
(`CodeMarkup.Highlighter.Request`): to highlight, to empty its cache, or how full the
cache is. Whatever it has been asked, and however its digests clash, it gives back what
a highlighter with the same languages and without a cache gives back
(`CodeMarkup.Highlighter.highlight_after_eq_uncached`).

What carries this is where entries come from (`CodeMarkup.Highlighter.StoredBy`): each of
them was stored when its very text was highlighted in a language of its very slot, and
holds the markup that was given back then. A digest says where to look and nothing more,
so an entry of one slot is never found for another one, whatever the names of the two
rule sets.
-/

namespace CodeMarkup

/-- The settings with the cache switched off; how much room it would have does not matter. -/
def Settings.withoutCache (s : Settings) (capacity : Nat) : Settings :=
  { s with useCache := false, cacheCapacity := capacity }

/-- Sound settings are sound without the cache. -/
theorem Settings.validate_withoutCache {s : Settings} (hs : s.validate = .ok ())
    (capacity : Nat) : (s.withoutCache capacity).validate = .ok () := by
  unfold validate at hs ⊢
  split at hs
  · cases hs
  · next hprefix =>
    split at hs
    · cases hs
    · split at hs
      · cases hs
      · next hlimit =>
        exact (if_neg hprefix).trans ((if_neg Bool.false_ne_true).trans (if_neg hlimit))

namespace Highlighter

/-! ### Requests -/

/-- What a highlighter may be asked. -/
inductive Request where
  /-- A call, which may change the cache. -/
  | call (k : Call)
  /-- The size and the capacity of the cache. -/
  | usage

/-- The call that a request is, if it is one. -/
def Request.call? : Request → Option Call
  | call k => some k
  | usage => none

/-- The highlighter after a request: the question how full the cache is changes nothing. -/
def serve (h : Highlighter) : Request → Highlighter
  | .call k => h.call k
  | .usage => h

/-- The highlighter after a row of requests. -/
def after (h : Highlighter) (requests : List Request) : Highlighter := requests.foldl serve h

theorem after_append_singleton (h : Highlighter) (requests : List Request) (q : Request) :
    h.after (requests ++ [q]) = (h.after requests).serve q := by
  rw [after, List.foldl_append]
  rfl

/-- Only the calls among the requests count. -/
theorem after_eq_run (h : Highlighter) (requests : List Request) :
    h.after requests = h.run (requests.filterMap Request.call?) := by
  induction requests generalizing h with
  | nil => rfl
  | cons q requests ih =>
    cases q with
    | call k => exact ih (h.call k)
    | usage => exact ih h

/-- Requests change the cache only. -/
theorem after_eq (h : Highlighter) (requests : List Request) :
    ∃ cache, h.after requests = { h with cache } := by
  rw [after_eq_run]
  exact h.run_eq _

/-! ### Where entries come from -/

/-- That an entry was stored by one of the requests: its text was highlighted in a language of
its slot, and it holds the markup under the rule set of this slot. -/
def StoredBy (h : Highlighter) (requests : List Request) (e : CacheEntry) : Prop :=
  ∃ language set, .call (.highlight e.text language) ∈ requests ∧
    h.registry.resolve? language = some (e.slot, set) ∧ e.markup = render h.settings set e.text

theorem StoredBy.append {h : Highlighter} {requests : List Request} {e : CacheEntry}
    (he : h.StoredBy requests e) (more : List Request) : h.StoredBy (requests ++ more) e := by
  obtain ⟨language, set, hmem, hrest⟩ := he
  exact ⟨language, set, List.mem_append_left more hmem, hrest⟩

/-- **What a request leaves in the cache** was there before, or it is the markup of the
document that has just been highlighted. -/
theorem storedBy_of_mem_serve {h : Highlighter} {q : Request} {cache' : Cache}
    (hcache' : (h.serve q).cache = some cache') {e : CacheEntry} (he : e ∈ cache'.entries) :
    (∃ cache, h.cache = some cache ∧ e ∈ cache.entries) ∨ h.StoredBy [q] e := by
  cases q with
  | usage => exact .inl ⟨cache', hcache', he⟩
  | call k =>
    cases k with
    | forget =>
      obtain ⟨cache, -, rfl⟩ := Option.map_eq_some_iff.1 hcache'
      cases he
    | highlight text language =>
      change (h.highlight text language).2.cache = some cache' at hcache'
      rcases h.snd_highlight text language with heq | ⟨cache, slot, set, hcache, hr, heq | heq⟩ <;>
        rw [heq] at hcache'
      · exact .inl ⟨cache', hcache', he⟩
      · cases hcache'
        exact .inl ⟨cache, hcache, Cache.mem_of_mem_touch he⟩
      · cases hcache'
        rcases Cache.mem_insert he with rfl | ⟨he, -⟩
        · exact .inr ⟨language, set, List.mem_singleton_self _,
            (Option.filter_eq_some_iff.1 hr).1, rfl⟩
        · exact .inl ⟨cache, hcache, Cache.mem_of_mem_touch he⟩

/-- The cache of a new highlighter is empty. -/
theorem entries_assemble {digest : Nat → Text → UInt64} {settings : Settings}
    {registry : Registry} {cache : Cache}
    (hcache : (assemble digest settings registry).cache = some cache) : cache.entries = [] := by
  simp only [assemble] at hcache
  split at hcache
  · cases hcache
    rfl
  · cases hcache

/-- **All that the cache of a new highlighter comes to hold was stored by the requests.** -/
theorem storedBy_of_mem_after {digest : Nat → Text → UInt64} {settings : Settings}
    {registry : Registry} (requests : List Request) {cache : Cache}
    (hcache : ((assemble digest settings registry).after requests).cache = some cache)
    {e : CacheEntry} (he : e ∈ cache.entries) :
    (assemble digest settings registry).StoredBy requests e := by
  induction requests using List.reverseRecOn generalizing cache e with
  | nil =>
    rw [entries_assemble hcache] at he
    cases he
  | append_singleton requests q ih =>
    rw [after_append_singleton] at hcache
    rcases storedBy_of_mem_serve hcache he with ⟨cache₀, hcache₀, he₀⟩ | hnew
    · exact (ih hcache₀ he₀).append [q]
    · -- The languages and the settings are the ones of the beginning.
      obtain ⟨cache₁, hafter⟩ := (assemble digest settings registry).after_eq requests
      rw [hafter] at hnew
      obtain ⟨language, set, hmem, hrest⟩ := hnew
      exact ⟨language, set, List.mem_append_right requests hmem, hrest⟩

/-! ### Main statement -/

/-- **The cache cannot be noticed.** Let the settings be sound, and let digests be made in any
way. Then the settings without the cache are sound too; whatever has been asked before,
the markup of a text is the one that a highlighter without a cache gives back; and what
a look at the cache finds for a slot and a text was stored when this text was
highlighted in a language of this slot, and is the markup under its rule set. -/
theorem highlight_after_eq_uncached (digest digest' : Nat → Text → UInt64) {settings : Settings}
    (hs : settings.validate = .ok ()) (capacity : Nat) (registry : Registry)
    (requests : List Request) :
    (settings.withoutCache capacity).validate = .ok () ∧
      (∀ text language,
        (((assemble digest settings registry).after requests).highlight text language).1 =
          ((assemble digest' (settings.withoutCache capacity) registry).highlight
            text language).1) ∧
      ∀ cache, ((assemble digest settings registry).after requests).cache = some cache →
        ∀ slot text markup, (cache.get slot text).1 = some markup →
          ∃ language set, .call (.highlight text language) ∈ requests ∧
            registry.resolve? language = some (slot, set) ∧
            markup = render settings set text := by
  refine ⟨Settings.validate_withoutCache hs capacity, fun text language => ?_, ?_⟩
  · have hcached := (coherent_assemble digest settings registry).fst_highlight_run
      (requests.filterMap Request.call?) text language
    have hplain := (coherent_assemble digest' (settings.withoutCache capacity) registry).fst_highlight
      text language
    -- Neither the rule set that applies nor its markup depends on the cache.
    rw [after_eq_run, hcached, hplain]
    rfl
  · intro cache hcache slot text markup hget
    obtain ⟨e, he, rfl, rfl, rfl⟩ := Cache.exists_of_get hget
    exact storedBy_of_mem_after requests hcache he

/-- Two rule sets with one name: the one for scripts, renamed, has taken an identifier of the one
for styles. -/
def sameNames : Registry := Registry.builtin.register { Language.script with name := "css" } ["css"]

/-- All digests are the same, and a text is highlighted under both of the rule sets. -/
theorem highlight_after_eq_uncached_sameNames :
    Settings.default.validate = .ok () ∧
      (sameNames.resolve? "css").map (fun (slot, set) => (slot, set.name)) = some (3, "css") ∧
      (sameNames.resolve? "scss").map (fun (slot, set) => (slot, set.name)) = some (2, "css") ∧
      (((assemble (fun _ _ => 0) .default sameNames).after
          [.call (.highlight "top: 1".toList "css"), .usage]).highlight
            "top: 1".toList "scss").1 =
        ((assemble Cache.contentDigest (Settings.default.withoutCache 0) sameNames).highlight
          "top: 1".toList "scss").1 :=
  ⟨by decide, by rfl, by rfl,
    (highlight_after_eq_uncached (fun _ _ => 0) Cache.contentDigest (by decide) 0 sameNames
      [.call (.highlight "top: 1".toList "css"), .usage]).2.1 _ _⟩

end Highlighter

end CodeMarkup
