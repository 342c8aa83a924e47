import CodeMarkup.Proofs.Cache.Recency
import CodeMarkup.Proofs.Histories

/-!
# The documents that a highlighter keeps

What the calls of a highlighter do to its cache can be told from the calls alone. A call is for a
*document* (`CodeMarkup.Highlighter.document?`), the text in the slot of its language, unless the
text is only escaped: because it is empty or too long, or its language has no rules. **A call that
is for no document leaves all as it is, and a call that is for one brings it to the front of the
cache** (`CodeMarkup.Cache.keep`), whether its markup is found or has to be made.

So the cache has the documents of the calls since it was emptied last
(`CodeMarkup.Highlighter.documentsSince`), the last one first and each one once, as many as there is
room for: that is the invariant of a row of calls (`CodeMarkup.Cache.Keeps`), and it gives the
number of entries (`CodeMarkup.Highlighter.usage?_run`). Languages with the same slot share their
documents; nothing else is counted together.
-/

namespace CodeMarkup

namespace Cache

variable {c : Cache} {d : Document} {ds : List Document} {digest : Nat → Text → UInt64}
  {capacity : Nat}

/-! ### Bringing a document to the front -/

/-- The cache after a document has been looked for, and stored with new markup if it was not
found. -/
def keep (d : Document) (markup : Text) (c : Cache) : Cache :=
  match c.get d.slot d.text with
  | (some _, c) => c
  | (none, c) => c.insert d.slot d.text markup

/-- A document is kept by operations on the cache. -/
theorem exists_keep_eq_run (d : Document) (markup : Text) (c : Cache) :
    ∃ log, c.keep d markup = c.run log := by
  unfold keep
  split
  · next found c' hget => exact ⟨[.get d.slot d.text], (congrArg Prod.snd hget).symm⟩
  · next c' hget =>
    obtain rfl : (c.get d.slot d.text).2 = c' := congrArg Prod.snd hget
    exact ⟨[.get d.slot d.text, .insert d.slot d.text markup], rfl⟩

/-- **Entries stand at the digests of their documents**, whatever a cache is asked. -/
theorem digest_eq_of_mem_run (h : ∀ e ∈ c.entries, e.digest = c.digest e.slot e.text)
    (log : List Operation) : ∀ e ∈ (c.run log).entries, e.digest = c.digest e.slot e.text := by
  induction log using List.reverseRecOn with
  | nil => exact h
  | append_singleton log op ih =>
    intro e he
    rw [run_append_singleton] at he
    cases op with
    | insert slot text markup =>
      rcases mem_insert he with rfl | ⟨he, -⟩
      · rw [digest_run]
      · exact ih e he
    | get slot text => exact ih e (mem_of_mem_touch he)
    | clear => cases he
    | usage => exact ih e he

/-- **A document that is kept is in front**, and the last one has to go if there is no room. -/
theorem Alone.documents_keep (h : c.Alone d) (hc : c.documents = ds.eraseDups.take c.capacity)
    (markup : Text) : (c.keep d markup).documents = (d :: ds).eraseDups.take c.capacity := by
  cases hget : (c.get d.slot d.text).1 with
  | some found =>
    have hkeep : c.keep d markup = c.perform (.get d.slot d.text) := by
      rw [keep, ← Prod.mk.eta (p := c.get d.slot d.text), hget]
      rfl
    have hmoved : c.moved? (.get d.slot d.text) = some d := by
      have hsame : c.used? (.get d.slot d.text) = c.moved? (.get d.slot d.text) :=
        used?_eq_moved? (by rintro _ ⟨⟩; exact h)
      rw [← hsame, used?, hget]
      rfl
    have huses : c.usesAfter moved? ds (.get d.slot d.text) = d :: ds := by
      simp [usesAfter, hmoved]
    rw [hkeep, ← huses]
    refine documents_perform hc fun d' hd' => ?_
    obtain rfl : d = d' := Option.some.inj (hmoved.symm.trans hd')
    exact h
  | none =>
    have hnot : d ∉ c.documents := fun hmem => by
      have hsome := h.isSome_get_iff.2 hmem
      rw [hget] at hsome
      cases hsome
    have hkeep : c.keep d markup = c.perform (.insert d.slot d.text markup) := by
      rw [keep, ← Prod.mk.eta (p := c.get d.slot d.text), hget, h.get_of_not_mem hnot]
      rfl
    rw [hkeep]
    refine documents_perform hc fun d' hd' => ?_
    cases hd'
    exact h

/-! ### The invariant -/

/-- That a cache keeps documents, the last one first: its entries stand at the digests of their
documents, and these are the first ones of `ds`, each one once, if they have digests of their
own. -/
structure Keeps (digest : Nat → Text → UInt64) (capacity : Nat) (ds : List Document) (c : Cache) :
    Prop where
  /-- How digests are made. -/
  digest_eq : c.digest = digest
  /-- How many entries there may be. -/
  capacity_eq : c.capacity = capacity
  /-- Where the entries stand. -/
  entry : ∀ e ∈ c.entries, e.digest = digest e.slot e.text
  /-- What the entries are for. -/
  documents_eq : Distinct digest ds → c.documents = ds.eraseDups.take capacity

theorem keeps_empty (digest : Nat → Text → UInt64) (capacity : Nat) :
    (empty digest capacity).Keeps digest capacity [] :=
  ⟨rfl, rfl, fun _ he => absurd he List.not_mem_nil, fun _ => List.take_nil.symm⟩

/-- Behind an emptied cache all begins anew. -/
theorem Keeps.clear (h : c.Keeps digest capacity ds) : c.clear.Keeps digest capacity [] :=
  ⟨h.digest_eq, h.capacity_eq, fun _ he => absurd he List.not_mem_nil, fun _ => List.take_nil.symm⟩

theorem Distinct.of_cons (h : Distinct digest (d :: ds)) : Distinct digest ds :=
  fun a ha b hb => h a (List.mem_cons_of_mem d ha) b (List.mem_cons_of_mem d hb)

/-- **A document that has a digest of its own has its place for itself.** -/
theorem Keeps.alone (h : c.Keeps digest capacity ds) (hds : Distinct digest (d :: ds)) :
    c.Alone d := by
  intro e he
  have hdocuments := h.documents_eq hds.of_cons
  have hmem : e.document ∈ ds := by
    have hkept : e.document ∈ c.documents := List.mem_map_of_mem he
    rw [hdocuments] at hkept
    exact List.mem_eraseDups.1 (List.mem_of_mem_take hkept)
  rw [h.entry e he, h.digest_eq]
  constructor
  · exact hds _ (List.mem_cons_of_mem d hmem) d List.mem_cons_self
  · rintro rfl
    rfl

/-- **A call for a document keeps it** before those that were kept. -/
theorem Keeps.keep (h : c.Keeps digest capacity ds) (d : Document) (markup : Text) :
    (c.keep d markup).Keeps digest capacity (d :: ds) := by
  obtain ⟨log, hlog⟩ := exists_keep_eq_run d markup c
  refine ⟨?_, ?_, ?_, fun hds => ?_⟩
  · rw [hlog, digest_run, h.digest_eq]
  · rw [hlog, capacity_run, h.capacity_eq]
  · rw [hlog]
    have hentries := h.entry
    rw [← h.digest_eq] at hentries ⊢
    exact digest_eq_of_mem_run hentries log
  · have hdocuments := h.documents_eq hds.of_cons
    rw [← h.capacity_eq] at hdocuments ⊢
    exact (h.alone hds).documents_keep hdocuments markup

/-- **The number of entries** is the number of documents, or the capacity if this is less. -/
theorem Keeps.size_eq (h : c.Keeps digest capacity ds) (hds : Distinct digest ds) :
    c.size = min capacity ds.toFinset.card := by
  have hsize : c.size = c.documents.length := (List.length_map _).symm
  rw [hsize, h.documents_eq hds, List.length_take, length_eraseDups]

end Cache

namespace Highlighter

variable {h : Highlighter} {text : Text} {language : String}

/-! ### The documents of calls -/

/-- Whether a call empties the cache. -/
def Call.isForget : Call → Bool
  | highlight _ _ => false
  | forget => true

/-- **The document that a call is for**: the text in the slot of its language. There is none if the
text is only escaped, since it is empty, too long, or in a language without rules, nor if the call
empties the cache. -/
def document? (h : Highlighter) : Call → Option Cache.Document
  | .highlight text language =>
    if text = [] ∨ h.settings.maxBytes < byteSize text then none
    else (h.rules? language).map fun found => ⟨found.1, text⟩
  | .forget => none

/-- **The documents of the calls since the cache was emptied last**, the last one first. -/
def documentsSince (h : Highlighter) (calls : List Call) : List Cache.Document :=
  (calls.reverse.takeWhile fun k => !k.isForget).filterMap h.document?

theorem documentsSince_forget (h : Highlighter) (calls : List Call) :
    h.documentsSince (calls ++ [.forget]) = [] := by
  simp [documentsSince, Call.isForget]

theorem documentsSince_highlight (h : Highlighter) (calls : List Call) (text : Text)
    (language : String) :
    h.documentsSince (calls ++ [.highlight text language]) =
      (h.document? (.highlight text language)).toList ++ h.documentsSince calls := by
  rw [documentsSince, List.reverse_append, List.reverse_singleton, List.singleton_append,
    List.takeWhile_cons_of_pos rfl, List.filterMap_cons]
  cases h.document? (.highlight text language) <;> rfl

/-! ### One call -/

/-- **A call that is for no document changes nothing.** -/
theorem snd_highlight_of_document?_eq_none (hd : h.document? (.highlight text language) = none) :
    (h.highlight text language).2 = h := by
  unfold highlight
  by_cases hempty : text = []
  · simp [hempty]
  · by_cases hlong : h.settings.maxBytes < byteSize text
    · cases h.rules? language <;> simp [hempty, hlong]
    · have hrules : h.rules? language = none := by simpa [document?, hempty, hlong] using hd
      simp [hempty, hrules]

/-- **A call that is for a document keeps it.** -/
theorem cache_highlight {d : Cache.Document}
    (hd : h.document? (.highlight text language) = some d) :
    ∃ markup, (h.highlight text language).2.cache = h.cache.map (Cache.keep d markup) := by
  have hshort : ¬(text = [] ∨ h.settings.maxBytes < byteSize text) := fun hno => by
    simp [document?, hno] at hd
  rw [document?, if_neg hshort] at hd
  obtain ⟨⟨slot, set⟩, hrules, rfl⟩ := Option.map_eq_some_iff.1 hd
  obtain ⟨hempty, hlong⟩ := not_or.1 hshort
  refine ⟨render h.settings set text, ?_⟩
  unfold highlight
  cases hcache : h.cache with
  | none => simp [hempty, hlong, hrules, hcache]
  | some cache =>
    cases hget : cache.get slot text with
    | mk found cache' => cases found <;> simp [hempty, hlong, hrules, hget, Cache.keep]

/-! ### Rows of calls -/

theorem run_append_singleton (h : Highlighter) (calls : List Call) (k : Call) :
    h.run (calls ++ [k]) = (h.run calls).call k := List.foldl_append

/-- The document that a call is for does not depend on the cache. -/
theorem document?_run (h : Highlighter) (calls : List Call) (k : Call) :
    (h.run calls).document? k = h.document? k := by
  obtain ⟨cache, hrun⟩ := h.run_eq calls
  rw [hrun]
  cases k <;> rfl

/-- **The cache of a highlighter keeps the documents of the calls** since it was emptied last. -/
theorem exists_keeps_run {digest : Nat → Text → UInt64} {capacity : Nat}
    (hnew : h.cache = some (.empty digest capacity)) (calls : List Call) :
    ∃ cache, (h.run calls).cache = some cache ∧
      cache.Keeps digest capacity (h.documentsSince calls) := by
  induction calls using List.reverseRecOn with
  | nil => exact ⟨_, hnew, Cache.keeps_empty digest capacity⟩
  | append_singleton calls k ih =>
    obtain ⟨cache, hcache, hkeeps⟩ := ih
    rw [run_append_singleton]
    cases k with
    | forget =>
      rw [documentsSince_forget]
      exact ⟨cache.clear, by rw [call, forget, hcache, Option.map_some], hkeeps.clear⟩
    | highlight text language =>
      rw [documentsSince_highlight]
      have hsame := h.document?_run calls (.highlight text language)
      cases hd : h.document? (.highlight text language) with
      | none =>
        rw [call, snd_highlight_of_document?_eq_none (hsame.trans hd)]
        exact ⟨cache, hcache, hkeeps⟩
      | some d =>
        obtain ⟨markup, hkeep⟩ := cache_highlight (hsame.trans hd)
        rw [hcache] at hkeep
        exact ⟨cache.keep d markup, hkeep, hkeeps.keep d markup⟩

/-- Without a cache there is none after any calls. -/
theorem cache_run_eq_none (hnone : h.cache = none) (calls : List Call) :
    (h.run calls).cache = none := by
  induction calls using List.reverseRecOn with
  | nil => exact hnone
  | append_singleton calls k ih =>
    rw [run_append_singleton]
    cases k with
    | forget => rw [call, forget, ih, Option.map_none]
    | highlight text language =>
      rw [call]
      cases hd : (h.run calls).document? (.highlight text language) with
      | none => rw [snd_highlight_of_document?_eq_none hd, ih]
      | some d =>
        obtain ⟨markup, hkeep⟩ := cache_highlight hd
        rw [hkeep, ih, Option.map_none]

/-- Sound settings leave room for an entry, where there is a cache. -/
theorem cache_assemble {settings : Settings} (hs : settings.validate = .ok ())
    (digest : Nat → Text → UInt64) (registry : Registry) :
    (assemble digest settings registry).cache =
      if settings.useCache then some (.empty digest settings.cacheCapacity) else none := by
  unfold Settings.validate at hs
  cases huse : settings.useCache with
  | false => simp [assemble, huse]
  | true =>
    have hroom : settings.cacheCapacity ≠ 0 := by
      intro hzero
      split at hs
      · cases hs
      · simp [huse, hzero] at hs
    simp [assemble, huse, hroom]

/-! ### Main statement -/

/-- **How full the cache of a highlighter is.** Let the settings be sound, and let digests be made
in any way. Whatever has been called, there is something to be said of the cache if and only if the
settings ask for one, and its capacity is the one of the settings. If the documents of the calls
since the cache was emptied last have digests of their own, there are as many entries as there are
such documents, but not more than there is room for. And a text that is only escaped leaves
the highlighter as it is, with all entries of its cache in their order. -/
theorem usage?_run (digest : Nat → Text → UInt64) {settings : Settings}
    (hs : settings.validate = .ok ()) (registry : Registry) (calls : List Call) :
    (((assemble digest settings registry).run calls).usage?.isSome ↔ settings.useCache) ∧
      (∀ usage ∈ ((assemble digest settings registry).run calls).usage?,
        usage.capacity = settings.cacheCapacity ∧
          (Cache.Distinct digest ((assemble digest settings registry).documentsSince calls) →
            usage.size = min settings.cacheCapacity
              ((assemble digest settings registry).documentsSince calls).toFinset.card)) ∧
      ∀ text language,
        (assemble digest settings registry).document? (.highlight text language) = none →
          (((assemble digest settings registry).run calls).highlight text language).2 =
            (assemble digest settings registry).run calls := by
  have hcache := cache_assemble hs digest registry
  have hsame : ∀ text language,
      (assemble digest settings registry).document? (.highlight text language) = none →
        (((assemble digest settings registry).run calls).highlight text language).2 =
          (assemble digest settings registry).run calls := fun text language hd =>
    snd_highlight_of_document?_eq_none ((document?_run _ calls _).trans hd)
  cases huse : settings.useCache with
  | false =>
    rw [huse] at hcache
    have hnone := cache_run_eq_none hcache calls
    exact ⟨by simp [usage?, hnone], by simp [usage?, hnone], hsame⟩
  | true =>
    rw [huse] at hcache
    obtain ⟨cache, hrun, hkeeps⟩ := exists_keeps_run hcache calls
    refine ⟨by simp [usage?, hrun], fun usage husage => ?_, hsame⟩
    rw [usage?, hrun] at husage
    cases husage
    exact ⟨hkeeps.capacity_eq, hkeeps.size_eq⟩

/-- Settings with room for two documents. -/
def roomForTwo : Settings := { Settings.default with cacheCapacity := 2 }

/-- Calls for three documents, one of them in two languages with one slot, and calls for none. -/
def mixedCalls : List Call := [
  .highlight "a".toList "html", .forget, .highlight "a".toList "js", .highlight [] "js",
  .highlight "b".toList "js", .highlight "a".toList "cobol", .highlight "a".toList "tsx",
  .highlight "a".toList "css"]

/-- There are three documents and two entries. -/
theorem usage?_run_mixedCalls :
    roomForTwo.validate = .ok () ∧
      (assemble Cache.contentDigest roomForTwo .builtin).documentsSince mixedCalls =
        [⟨2, "a".toList⟩, ⟨0, "a".toList⟩, ⟨0, "b".toList⟩, ⟨0, "a".toList⟩] ∧
      ((assemble Cache.contentDigest roomForTwo .builtin).run mixedCalls).usage? = some ⟨2, 2⟩ := by
  have hs : roomForTwo.validate = .ok () := by decide
  have hsince : (assemble Cache.contentDigest roomForTwo .builtin).documentsSince mixedCalls =
      [⟨2, "a".toList⟩, ⟨0, "a".toList⟩, ⟨0, "b".toList⟩, ⟨0, "a".toList⟩] := by rfl
  obtain ⟨hsome, husage, -⟩ := usage?_run Cache.contentDigest hs .builtin mixedCalls
  obtain ⟨⟨size, capacity⟩, hu⟩ := Option.isSome_iff_exists.1 (hsome.2 rfl)
  obtain ⟨hcapacity, hsize⟩ := husage _ hu
  rw [hsince] at hsize
  obtain rfl : capacity = 2 := hcapacity
  obtain rfl : size = 2 := (hsize (by decide)).trans (by decide)
  exact ⟨hs, hsince, hu⟩

end Highlighter

end CodeMarkup
