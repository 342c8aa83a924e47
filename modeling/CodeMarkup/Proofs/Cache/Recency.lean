import CodeMarkup.Proofs.Cache.Freshness
import CodeMarkup.Proofs.Rows
import Mathlib.Data.Finset.Card

/-!
# The documents that were used last

The order of the entries of a cache is the order in which their documents were brought to the front
last, and **the documents in it are those that were brought to the front last**, as many of them as
there is room for (`CodeMarkup.Cache.documents_run`). So whether a document is found can be told from
the log of operations alone, without the order of the entries: it has been stored since the cache was
emptied last, and since it came to the front last there have been fewer other documents than there
is room for (`CodeMarkup.Cache.found_iff_recently_used`).

This asks for documents with digests of their own (`CodeMarkup.Cache.Distinct`) as far as they are
stored; then a document that is kept has its entry for itself (`CodeMarkup.Cache.Alone`). Nothing is
asked of a document that is looked for in vain. **A look at a digest brings to the front whatever
entry stands there** (`CodeMarkup.Cache.moved?`), be it the one of another document, so that a
document can be lost to one that is not even kept (`CodeMarkup.Cache.lost_to_twin`). It is the
documents that are stored and those that are found (`CodeMarkup.Cache.used?`) if all digests are
distinct.

An operation is one on a list of documents: a document that comes to the front leaves its
place, if it has one. On the side of the log the same is done by leaving out repetitions
(`CodeMarkup.take_cons_filter_take`).
-/

namespace CodeMarkup

/-! ### The first ones without repetitions -/

section Lists

variable {α : Type} [DecidableEq α]

theorem filter_eraseDups (p : α → Bool) (as : List α) :
    as.eraseDups.filter p = (as.filter p).eraseDups := by
  induction hn : as.length using Nat.strongRecOn generalizing as with
  | _ n ih =>
    cases as with
    | nil => rfl
    | cons a as =>
      have hlt : (as.filter fun b => !b == a).length < n := by
        have := List.length_filter_le (fun b => !b == a) as
        rw [List.length_cons] at hn
        omega
      have ih := ih _ hlt _ rfl
      rw [List.eraseDups_cons, List.filter_cons, List.filter_cons, ih]
      split
      · rw [List.eraseDups_cons, List.filter_comm]
      · next ha =>
        -- What is kept of the rest is not the item that is left out.
        have hsame : (as.filter fun b => !b == a).filter p = as.filter p := by
          rw [List.filter_filter]
          refine List.filter_congr fun b _ => ?_
          by_cases hb : b = a
          · simp [hb, ha]
          · simp [hb]
        rw [hsame]

/-- **What is in front** is left out of the rest. -/
theorem eraseDups_cons_eq_filter (a : α) (as : List α) :
    (a :: as).eraseDups = a :: as.eraseDups.filter (· ≠ a) := by
  rw [List.eraseDups_cons, ← filter_eraseDups]
  refine congrArg (a :: ·) (List.filter_congr fun b _ => ?_)
  by_cases hb : b = a <;> simp [hb]

theorem nodup_eraseDups (as : List α) : as.eraseDups.Nodup := by
  induction as with
  | nil => exact List.nodup_nil
  | cons a as ih =>
    rw [eraseDups_cons_eq_filter]
    exact List.nodup_cons.2 ⟨by simp, ih.filter _⟩

theorem length_eraseDups (as : List α) : as.eraseDups.length = as.toFinset.card := by
  rw [← List.toFinset_card_of_nodup (nodup_eraseDups as)]
  congr 1
  ext a
  simp [List.mem_eraseDups]

/-- An item that has been there before needs no room when it comes to the front. -/
theorem length_cons_filter_le {a : α} {as : List α} (h : a ∈ as) :
    (a :: as.filter (· ≠ a)).length ≤ as.length :=
  List.length_filter_lt_length_iff_exists.2 ⟨a, h, by simp⟩

/-- Leaving out an item among the first ones leaves all of them but one. -/
theorem take_filter_take (a : α) {as : List α} (h : as.Nodup) (n : Nat) :
    ((as.take (n + 1)).filter (· ≠ a)).take n = (as.filter (· ≠ a)).take n := by
  induction as generalizing n with
  | nil => rfl
  | cons b as ih =>
    obtain ⟨hb, has⟩ := List.nodup_cons.1 h
    rw [List.take_succ_cons]
    by_cases hba : b = a
    · subst hba
      have hkeep : ∀ cs : List α, cs ⊆ as → cs.filter (· ≠ b) = cs := fun cs hcs =>
        List.filter_eq_self.2 fun c hc => by
          simpa using fun hcb : c = b => hb (hcb ▸ hcs hc)
      rw [List.filter_cons_of_neg (by simp), List.filter_cons_of_neg (by simp),
        hkeep _ (List.take_subset n as), hkeep as (List.Subset.refl as), List.take_take,
        Nat.min_self]
    · rw [List.filter_cons_of_pos (by simpa using hba),
        List.filter_cons_of_pos (by simpa using hba)]
      cases n with
      | zero => rfl
      | succ n => rw [List.take_succ_cons, List.take_succ_cons, ih has n]

/-- **The item that comes to the front** is taken from the first ones or from all of them: if there
is no room for the last of the first ones, there is none for those behind it. -/
theorem take_cons_filter_take (n : Nat) (a : α) {as : List α} (h : as.Nodup) :
    (a :: (as.take n).filter (· ≠ a)).take n = (a :: as.filter (· ≠ a)).take n := by
  cases n with
  | zero => rfl
  | succ n => rw [List.take_succ_cons, List.take_succ_cons, take_filter_take a h n]

omit [DecidableEq α] in
/-- An item is among the first ones if there is room for it behind those in front of it. -/
theorem mem_take_append_cons_iff {n : Nat} {a : α} {before behind : List α} (h : a ∉ before) :
    a ∈ (before ++ a :: behind).take n ↔ before.length < n := by
  have hnot : a ∉ before.take n := fun hmem => h (List.mem_of_mem_take hmem)
  rw [List.take_append, List.mem_append, or_iff_right hnot]
  constructor
  · intro hmem
    by_contra hle
    rw [Nat.sub_eq_zero_of_le (Nat.le_of_not_lt hle)] at hmem
    exact absurd hmem List.not_mem_nil
  · intro hlt
    obtain ⟨m, hm⟩ := Nat.exists_eq_succ_of_ne_zero (Nat.sub_ne_zero_of_lt hlt)
    rw [hm]
    exact List.mem_cons_self

/-- **What is among the first ones without repetitions** stands in the list, and fewer other items
stand before it. -/
theorem mem_take_eraseDups_iff {n : Nat} {a : α} {as : List α} :
    a ∈ as.eraseDups.take n ↔ a ∈ as ∧ (as.takeWhile (· ≠ a)).toFinset.card < n := by
  by_cases ha : a ∈ as
  · obtain ⟨before, behind, rfl, hbefore⟩ := List.eq_append_cons_of_mem ha
    have hwhile : (before ++ a :: behind).takeWhile (· ≠ a) = before := by
      have hne : ∀ b ∈ before, decide (b ≠ a) = true := fun b hb => by
        simpa using fun hba : b = a => hbefore (hba ▸ hb)
      rw [List.takeWhile_append_of_pos hne]
      simp
    obtain ⟨rest, hrest⟩ : ∃ rest, (before ++ a :: behind).eraseDups =
        before.eraseDups ++ a :: rest := by
      have hcons : (a :: behind).removeAll before = a :: behind.removeAll before := by
        simp [List.removeAll, hbefore]
      rw [List.eraseDups_append, hcons, List.eraseDups_cons]
      exact ⟨_, rfl⟩
    have hnot : a ∉ before.eraseDups := mt List.mem_eraseDups.1 hbefore
    rw [hwhile, hrest, mem_take_append_cons_iff hnot, length_eraseDups, and_iff_right ha]
  · refine iff_of_false (fun hmem => ha ?_) fun h => ha h.1
    exact List.mem_eraseDups.1 (List.mem_of_mem_take hmem)

end Lists

/-! ### Documents -/

namespace Cache

/-- What markup is kept for. -/
structure Document where
  /-- The slot of the language. -/
  slot : Nat
  /-- The text. -/
  text : Text
  deriving DecidableEq

end Cache

/-- The document of an entry. -/
def CacheEntry.document (e : CacheEntry) : Cache.Document := ⟨e.slot, e.text⟩

namespace Cache

/-- The documents of the entries, the one that was used last first. -/
def documents (c : Cache) : List Document := c.entries.map CacheEntry.document

/-- That documents have digests of their own. -/
def Distinct (digest : Nat → Text → UInt64) (ds : List Document) : Prop :=
  ∀ d ∈ ds, ∀ d' ∈ ds, digest d.slot d.text = digest d'.slot d'.text → d = d'

instance (digest : Nat → Text → UInt64) (ds : List Document) : Decidable (Distinct digest ds) :=
  inferInstanceAs (Decidable
    (∀ d ∈ ds, ∀ d' ∈ ds, digest d.slot d.text = digest d'.slot d'.text → d = d'))

/-- That the place of a document in a cache is held by no other one. -/
def Alone (c : Cache) (d : Document) : Prop :=
  ∀ e ∈ c.entries, e.digest = c.digest d.slot d.text ↔ e.document = d

variable {c : Cache} {d : Document}

theorem Alone.documents_filter (h : c.Alone d) :
    (c.entries.filter (·.digest ≠ c.digest d.slot d.text)).map CacheEntry.document =
      c.documents.filter (· ≠ d) := by
  rw [documents, List.filter_map]
  refine congrArg (List.map CacheEntry.document) (List.filter_congr fun e he => ?_)
  simpa using h e he

/-- **A document that has its place for itself is found there**, or nothing is there. -/
theorem Alone.find?_cases (h : c.Alone d) :
    (d ∈ c.documents ∧ ∃ e, c.entries.find? (·.digest = c.digest d.slot d.text) = some e ∧
        e.document = d) ∨
      d ∉ c.documents ∧ c.entries.find? (·.digest = c.digest d.slot d.text) = none := by
  cases hfind : c.entries.find? (·.digest = c.digest d.slot d.text) with
  | some e =>
    have he := List.mem_of_find?_eq_some hfind
    have hd : e.document = d := (h e he).1 (by simpa using List.find?_some hfind)
    exact .inl ⟨List.mem_map.2 ⟨e, he, hd⟩, e, rfl, hd⟩
  | none =>
    refine .inr ⟨fun hmem => ?_, rfl⟩
    obtain ⟨e, he, hd⟩ := List.mem_map.1 hmem
    have hdigest := (h e he).2 hd
    exact absurd hdigest (by simpa using List.find?_eq_none.1 hfind e he)

theorem Alone.isSome_get_iff (h : c.Alone d) :
    (c.get d.slot d.text).1.isSome ↔ d ∈ c.documents := by
  rcases h.find?_cases with ⟨hmem, e, hfind, he⟩ | ⟨hmem, hfind⟩
  · obtain ⟨hslot, htext⟩ : e.slot = d.slot ∧ e.text = d.text := by
      rw [← he]
      exact ⟨rfl, rfl⟩
    simp [get, hfind, hslot, htext, hmem]
  · simp [get, hfind, hmem]

/-- **A look brings the same entry to the front** for documents with one digest. -/
theorem snd_get_congr {slot slot' : Nat} {text text' : Text}
    (h : c.digest slot text = c.digest slot' text') : (c.get slot text).2 = (c.get slot' text').2 :=
  congrArg (fun digest => c.touch digest) h

/-- **A look at a digest at which no entry stands** finds nothing and changes nothing. -/
theorem get_of_find?_eq_none {slot : Nat} {text : Text}
    (h : c.entries.find? (·.digest = c.digest slot text) = none) : c.get slot text = (none, c) := by
  rw [get, touch, h]
  rfl

/-- **A look in vain changes nothing.** -/
theorem Alone.get_of_not_mem (h : c.Alone d) (hd : d ∉ c.documents) : (c.get d.slot d.text).2 = c := by
  rcases h.find?_cases with ⟨hmem, -⟩ | ⟨-, hfind⟩
  · exact absurd hmem hd
  · rw [get_of_find?_eq_none hfind]

/-- **A document that is found comes to the front.** -/
theorem Alone.documents_get (h : c.Alone d) (hd : d ∈ c.documents) :
    (c.get d.slot d.text).2.documents = d :: c.documents.filter (· ≠ d) := by
  rcases h.find?_cases with ⟨-, e, hfind, he⟩ | ⟨hmem, -⟩
  · rw [get, touch, hfind, documents, List.map_cons, he, h.documents_filter]
  · exact absurd hd hmem

/-- **A document that is stored comes to the front**, and the last one has to go if there is no
room. -/
theorem Alone.documents_insert (h : c.Alone d) (markup : Text) :
    (c.insert d.slot d.text markup).documents =
      (d :: c.documents.filter (· ≠ d)).take c.capacity := by
  rw [insert, documents, List.map_take, List.map_cons, h.documents_filter]
  rfl

/-! ### Uses -/

/-- The document that an operation names. -/
def Operation.document? : Operation → Option Document
  | .insert slot text _ => some ⟨slot, text⟩
  | .get slot text => some ⟨slot, text⟩
  | .clear => none
  | .usage => none

/-- The document that an operation stores. -/
def Operation.stored? : Operation → Option Document
  | .insert slot text _ => some ⟨slot, text⟩
  | .get _ _ => none
  | .clear => none
  | .usage => none

theorem Operation.document?_of_stored? {op : Operation} (h : d ∈ op.stored?) : d ∈ op.document? := by
  cases op with
  | insert slot text markup => exact h
  | get | clear | usage => cases h

/-- The document that an operation uses: one that is stored, or one that is found. -/
def used? (c : Cache) : Operation → Option Document
  | .insert slot text _ => some ⟨slot, text⟩
  | .get slot text => (c.get slot text).1.map fun _ => ⟨slot, text⟩
  | .clear => none
  | .usage => none

/-- The document that an operation brings to the front: one that is stored, or the one whose entry
stands at the digest that is looked at. -/
def moved? (c : Cache) : Operation → Option Document
  | .insert slot text _ => some ⟨slot, text⟩
  | .get slot text =>
    (c.entries.find? (·.digest = c.digest slot text)).map CacheEntry.document
  | .clear => none
  | .usage => none

/-- **Where a document has its place for itself** it is brought to the front if it is used. -/
theorem used?_eq_moved? {op : Operation} (h : ∀ d ∈ op.document?, c.Alone d) :
    c.used? op = c.moved? op := by
  cases op with
  | get slot text =>
    have halone : c.Alone ⟨slot, text⟩ := h _ rfl
    rcases halone.find?_cases with ⟨-, e, hfind, he⟩ | ⟨-, hfind⟩
    · obtain ⟨rfl, rfl⟩ : e.slot = slot ∧ e.text = text := by simpa [CacheEntry.document] using he
      simp [used?, moved?, get, hfind, he]
    · simp [used?, moved?, get, hfind]
  | insert | clear | usage => rfl

section Rows

variable (use : Cache → Operation → Option Document)

/-- The documents since the cache was emptied last, the last one first, if there are those of `ds`
and one more operation; `use` tells what counts as a use. -/
def usesAfter (c : Cache) (ds : List Document) (op : Operation) : List Document :=
  match op with
  | .clear => []
  | op => (use c op).toList ++ ds

/-- The uses behind those of `ds`. -/
def usesFrom (c : Cache) (ds : List Document) : List Operation → List Document
  | [] => ds
  | op :: log => (c.perform op).usesFrom (c.usesAfter use ds op) log

/-- **The documents that the operations of a log use** since the cache was emptied last, the one
that was used last first. -/
def uses (c : Cache) (log : List Operation) : List Document := c.usesFrom use [] log

theorem uses_append_singleton (c : Cache) (log : List Operation) (op : Operation) :
    c.uses use (log ++ [op]) = (c.run log).usesAfter use (c.uses use log) op := by
  have hfrom : ∀ ds, c.usesFrom use ds (log ++ [op]) =
      (c.run log).usesAfter use (c.usesFrom use ds log) op := by
    induction log generalizing c with
    | nil => exact fun ds => rfl
    | cons op' log ih => exact fun ds => ih (c.perform op') _
  exact hfrom []

end Rows

/-- **What an operation does to the documents** of a cache that has the first ones of `ds`: it has
the first ones after the operation. -/
theorem documents_perform {ds : List Document} (hc : c.documents = ds.eraseDups.take c.capacity)
    {op : Operation} (h : ∀ d ∈ c.moved? op, c.Alone d) :
    (c.perform op).documents = (c.usesAfter moved? ds op).eraseDups.take c.capacity := by
  have hfront : ∀ d : Document, (d :: c.documents.filter (· ≠ d)).take c.capacity =
      (d :: ds).eraseDups.take c.capacity := by
    intro d
    rw [hc, eraseDups_cons_eq_filter]
    exact take_cons_filter_take c.capacity d (nodup_eraseDups ds)
  cases op with
  | insert slot text markup =>
    have halone : c.Alone ⟨slot, text⟩ := h _ rfl
    exact (halone.documents_insert markup).trans (hfront ⟨slot, text⟩)
  | get slot text =>
    cases hfind : c.entries.find? (·.digest = c.digest slot text) with
    | some e =>
      have hmem : e ∈ c.entries := List.mem_of_find?_eq_some hfind
      have halone : c.Alone e.document := h _ (by simp [moved?, hfind])
      have hlooked : e.digest = c.digest slot text := by simpa using List.find?_some hfind
      have howned : e.digest = c.digest e.slot e.text := (halone e hmem).2 rfl
      have huses : c.usesAfter moved? ds (.get slot text) = e.document :: ds := by
        simp [usesAfter, moved?, hfind]
      have hkept : e.document ∈ c.documents := List.mem_map_of_mem hmem
      have hle : c.documents.length ≤ c.capacity := by
        rw [hc]
        exact List.length_take_le _ _
      rw [huses, ← hfront,
        List.take_of_length_le (Nat.le_trans (length_cons_filter_le hkept) hle), perform,
        snd_get_congr (hlooked.symm.trans howned)]
      exact halone.documents_get hkept
    | none =>
      have huses : c.usesAfter moved? ds (.get slot text) = ds := by
        simp [usesAfter, moved?, hfind]
      rw [huses, ← hc, perform, get_of_find?_eq_none hfind]
  | clear => exact List.take_nil.symm
  | usage => exact hc

/-! ### Rows of operations -/

variable {digest : Nat → Text → UInt64} {capacity : Nat} {log : List Operation}

/-- Every entry has been stored by the log. -/
theorem document_mem_of_recorded {e : CacheEntry} (he : Recorded digest log e) :
    e.document ∈ log.filterMap Operation.stored? := by
  obtain ⟨before, behind, hlog, -⟩ := he.lastStored
  rw [hlog]
  exact List.mem_filterMap.2 ⟨.insert e.slot e.text e.markup, by simp, rfl⟩

/-- The documents of a cache have been stored by the log. -/
theorem mem_of_mem_documents_run (hd : d ∈ ((empty digest capacity).run log).documents) :
    d ∈ log.filterMap Operation.stored? := by
  obtain ⟨e, he, rfl⟩ := List.mem_map.1 hd
  exact document_mem_of_recorded (recorded_run digest capacity log e he)

/-- What is brought to the front has been stored by the log, or is stored now. -/
theorem mem_of_moved? {op : Operation} (hd : d ∈ ((empty digest capacity).run log).moved? op) :
    d ∈ (log ++ [op]).filterMap Operation.stored? := by
  rw [List.filterMap_append]
  cases op with
  | insert slot text markup =>
    cases hd
    exact List.mem_append_right _ List.mem_cons_self
  | get slot text =>
    obtain ⟨e, hfind, rfl⟩ := Option.map_eq_some_iff.1 hd
    exact List.mem_append_left _ (mem_of_mem_documents_run
      (List.mem_map_of_mem (List.mem_of_find?_eq_some hfind)))
  | clear | usage => cases hd

/-- **Where digests are distinct, a document has its place for itself.** -/
theorem Distinct.alone_run {ds : List Document} (h : Distinct digest ds) (hd : d ∈ ds)
    (hlog : ∀ d' ∈ log.filterMap Operation.stored?, d' ∈ ds) :
    ((empty digest capacity).run log).Alone d := by
  intro e he
  have hrecorded := recorded_run digest capacity log e he
  have hmem : e.document ∈ ds := hlog _ (document_mem_of_recorded hrecorded)
  rw [digest_run, hrecorded.digest_eq]
  constructor
  · exact fun heq => h _ hmem d hd heq
  · rintro rfl
    rfl

/-- **A cache has the documents that came to the front last**, as many of them as there is room
for. -/
theorem documents_run (h : Distinct digest (log.filterMap Operation.stored?)) :
    ((empty digest capacity).run log).documents =
      ((empty digest capacity).uses moved? log).eraseDups.take capacity := by
  induction log using List.reverseRecOn with
  | nil => exact List.take_nil.symm
  | append_singleton log op ih =>
    have hsub : ∀ d ∈ log.filterMap Operation.stored?,
        d ∈ (log ++ [op]).filterMap Operation.stored? := fun d hd => by
      rw [List.filterMap_append]
      exact List.mem_append_left _ hd
    have halone : ∀ d ∈ ((empty digest capacity).run log).moved? op,
        ((empty digest capacity).run log).Alone d := fun d hd =>
      h.alone_run (mem_of_moved? hd) hsub
    have hcapacity : ((empty digest capacity).run log).capacity = capacity := capacity_run _ log
    have hbefore := ih fun d hd d' hd' => h d (hsub d hd) d' (hsub d' hd')
    have hstep := documents_perform (c := (empty digest capacity).run log)
      (by rw [hcapacity]; exact hbefore) halone
    rw [run_append_singleton, uses_append_singleton, hstep, hcapacity]

/-- **Where all documents that are named have digests of their own**, those that come to the front
are those that are stored or found. -/
theorem Distinct.uses_used?_eq (h : Distinct digest (log.filterMap Operation.document?)) :
    (empty digest capacity).uses used? log = (empty digest capacity).uses moved? log := by
  induction log using List.reverseRecOn with
  | nil => rfl
  | append_singleton log op ih =>
    rw [List.filterMap_append] at h
    have hstored : ∀ d ∈ log.filterMap Operation.stored?, d ∈ log.filterMap Operation.document? ++
        [op].filterMap Operation.document? := fun d hd => by
      obtain ⟨op', hop', hd⟩ := List.mem_filterMap.1 hd
      exact List.mem_append_left _
        (List.mem_filterMap.2 ⟨op', hop', Operation.document?_of_stored? hd⟩)
    have halone : ∀ d ∈ op.document?, ((empty digest capacity).run log).Alone d := fun d hd =>
      h.alone_run (List.mem_append_right _ (List.mem_filterMap.2 ⟨op, by simp, hd⟩)) hstored
    have hbefore := ih fun d hd d' hd' =>
      h d (List.mem_append_left _ hd) d' (List.mem_append_left _ hd')
    rw [uses_append_singleton, uses_append_singleton, hbefore]
    cases op with
    | clear => rfl
    | insert | get | usage => exact congrArg (·.toList ++ _) (used?_eq_moved? halone)

/-- That markup of a document has been stored since the cache was emptied last. -/
def StoredSince (log : List Operation) (d : Document) : Prop :=
  ∃ before markup behind, log = before ++ .insert d.slot d.text markup :: behind ∧ .clear ∉ behind

theorem LastStored.storedSince {slot : Nat} {text markup : Text}
    (h : LastStored log slot text markup) : StoredSince log ⟨slot, text⟩ := by
  obtain ⟨before, behind, hlog, hclear, -⟩ := h
  exact ⟨before, markup, behind, hlog, hclear⟩

theorem storedSince_append_singleton {op : Operation} :
    StoredSince (log ++ [op]) d ↔
      op ≠ .clear ∧ ((∃ markup, op = .insert d.slot d.text markup) ∨ StoredSince log d) := by
  constructor
  · rintro ⟨before, markup, behind, hlog, hclear⟩
    rcases concat_eq_append_cons_iff.1 hlog with ⟨rfl, rfl, rfl⟩ | ⟨between, rfl, rfl⟩
    · exact ⟨nofun, .inl ⟨markup, rfl⟩⟩
    · obtain ⟨hbetween, hlast⟩ : .clear ∉ between ∧ .clear ≠ op := by simpa using hclear
      exact ⟨hlast.symm, .inr ⟨before, markup, between, rfl, hbetween⟩⟩
  · rintro ⟨hclear, ⟨markup, rfl⟩ | ⟨before, markup, behind, rfl, hbehind⟩⟩
    · exact ⟨log, markup, [], rfl, List.not_mem_nil⟩
    · exact ⟨before, markup, behind ++ [op], by simp, by simpa [hbehind] using hclear.symm⟩

/-- **The documents that came to the front are those that have been stored**, however digests
clash: only what has been stored has an entry. -/
theorem mem_uses_iff (digest : Nat → Text → UInt64) (capacity : Nat) (log : List Operation)
    (d : Document) : d ∈ (empty digest capacity).uses moved? log ↔ StoredSince log d := by
  induction log using List.reverseRecOn generalizing d with
  | nil => exact iff_of_false List.not_mem_nil fun ⟨before, _, _, hlog, _⟩ => by simp at hlog
  | append_singleton log op ih =>
    rw [uses_append_singleton, storedSince_append_singleton, ← ih]
    cases op with
    | insert slot text markup =>
      have hsame : d = ⟨slot, text⟩ ↔ slot = d.slot ∧ text = d.text := by
        cases d
        simp [eq_comm]
      simp [usesAfter, moved?, hsame]
    | get slot text =>
      have hmoved : d ∈ ((empty digest capacity).run log).moved? (.get slot text) →
          d ∈ (empty digest capacity).uses moved? log := by
        intro hd
        obtain ⟨e, hfind, rfl⟩ := Option.map_eq_some_iff.1 hd
        have hrecorded := recorded_run digest capacity log e (List.mem_of_find?_eq_some hfind)
        exact (ih _).2 hrecorded.lastStored.storedSince
      simpa [usesAfter] using hmoved
    | clear => simp [usesAfter]
    | usage => simp [usesAfter, moved?]

/-- **A document is found if and only if it is kept**, where documents that are stored have digests
of their own, whatever the digest of this one is. -/
theorem isSome_get_run_iff (h : Distinct digest (log.filterMap Operation.stored?)) (d : Document) :
    (((empty digest capacity).run log).get d.slot d.text).1.isSome ↔
      d ∈ ((empty digest capacity).run log).documents := by
  constructor
  · intro hsome
    obtain ⟨markup, hget⟩ := Option.isSome_iff_exists.1 hsome
    obtain ⟨e, he, hslot, htext, -⟩ := exists_of_get hget
    refine List.mem_map.2 ⟨e, he, ?_⟩
    rw [CacheEntry.document, hslot, htext]
  · intro hd
    have halone : ((empty digest capacity).run log).Alone d :=
      h.alone_run (mem_of_mem_documents_run hd) fun _ hd => hd
    exact halone.isSome_get_iff.2 hd

/-! ### Main statement -/

/-- **A cache has exactly the documents that came to the front last.** Let the documents that are
stored have digests of their own. Whatever a cache has been asked since it was new, a document is
found if and only if markup of it has been stored since the cache was emptied last, and fewer other
documents than there is room for have come to the front since it did so last. A look at a digest is
one at the document that is kept there; where none is, it finds nothing and changes nothing, and
neither does the question how full the cache is. If the documents that are looked for have digests
of their own too, it is those that are stored or found that come to the front. -/
theorem found_iff_recently_used {digest : Nat → Text → UInt64} (capacity : Nat)
    (log : List Operation) (h : Distinct digest (log.filterMap Operation.stored?)) (d : Document) :
    ((((empty digest capacity).run log).get d.slot d.text).1.isSome ↔
        StoredSince log d ∧
          (((empty digest capacity).uses moved? log).takeWhile (· ≠ d)).toFinset.card < capacity) ∧
      (∀ kept ∈ ((empty digest capacity).run log).documents,
        digest kept.slot kept.text = digest d.slot d.text →
          (((empty digest capacity).run log).get d.slot d.text).2 =
            (((empty digest capacity).run log).get kept.slot kept.text).2) ∧
      ((∀ kept ∈ ((empty digest capacity).run log).documents,
          digest kept.slot kept.text ≠ digest d.slot d.text) →
        ((empty digest capacity).run log).get d.slot d.text =
          (none, (empty digest capacity).run log)) ∧
      ((empty digest capacity).run log).perform .usage = (empty digest capacity).run log ∧
      (Distinct digest (log.filterMap Operation.document?) →
        (empty digest capacity).uses used? log = (empty digest capacity).uses moved? log) := by
  refine ⟨?_, fun kept _ hsame => ?_, fun hother => ?_, rfl, fun hall => hall.uses_used?_eq⟩
  · rw [isSome_get_run_iff h, documents_run h, mem_take_eraseDups_iff, mem_uses_iff]
  · refine snd_get_congr ?_
    rw [digest_run]
    exact hsame.symm
  · refine get_of_find?_eq_none (List.find?_eq_none.2 fun e he hsame => ?_)
    have hdigest := (recorded_run digest capacity log e he).digest_eq
    rw [digest_run, decide_eq_true_iff, hdigest] at hsame
    exact hother e.document (List.mem_map_of_mem he) hsame

/-- A text. -/
def firstTwin : Text := "esDeLy2nvOK".toList

/-- Another text with the same digest. -/
def secondTwin : Text := "wv1dVwm6yrD".toList

/-- Three documents for two places; before the third one is stored there is a look at a document
that has never been stored, but has the digest of the first one. -/
def threeForTwo : List Operation := [
  .insert 0 firstTwin "A".toList, .insert 0 "b".toList "B".toList, .get 0 secondTwin,
  .insert 0 "c".toList "C".toList]

/-- The second document has to go, since two other ones have come to the front since it was
stored. -/
theorem found_iff_recently_used_threeForTwo :
    Distinct contentDigest (threeForTwo.filterMap Operation.stored?) ∧
      (empty contentDigest 2).uses moved? threeForTwo =
        [⟨0, "c".toList⟩, ⟨0, firstTwin⟩, ⟨0, "b".toList⟩, ⟨0, firstTwin⟩] ∧
      ((((empty contentDigest 2).run threeForTwo).get 0 "b".toList).1.isSome ↔
        StoredSince threeForTwo ⟨0, "b".toList⟩ ∧
          (((empty contentDigest 2).uses moved? threeForTwo).takeWhile
            (· ≠ ⟨0, "b".toList⟩)).toFinset.card < 2) ∧
      (((empty contentDigest 2).run threeForTwo).get 0 "b".toList).1 = none ∧
      (((empty contentDigest 2).run threeForTwo).get 0 firstTwin).1 = some "A".toList :=
  have h : Distinct contentDigest (threeForTwo.filterMap Operation.stored?) := by decide
  ⟨h, by decide, (found_iff_recently_used 2 threeForTwo h ⟨0, "b".toList⟩).1, by decide, by decide⟩

/-- **A document can be lost to a look in vain.** The documents that are stored or found, and the one
that is looked for in the end, have digests of their own; but of two places for the two that were
used last the second document has none, for the look in vain has changed the cache. -/
theorem lost_to_twin :
    contentDigest 0 firstTwin = contentDigest 0 secondTwin ∧
      Distinct contentDigest
        (⟨0, "b".toList⟩ :: (empty contentDigest 2).uses used? threeForTwo) ∧
      StoredSince threeForTwo ⟨0, "b".toList⟩ ∧
      (((empty contentDigest 2).uses used? threeForTwo).takeWhile
        (· ≠ ⟨0, "b".toList⟩)).toFinset.card < 2 ∧
      (((empty contentDigest 2).run threeForTwo).get 0 "b".toList).1 = none ∧
      (((empty contentDigest 2).run (threeForTwo.take 2)).get 0 secondTwin).1 = none ∧
      (((empty contentDigest 2).run (threeForTwo.take 2)).get 0 secondTwin).2 ≠
        (empty contentDigest 2).run (threeForTwo.take 2) := by
  refine ⟨by decide, by decide, ⟨[.insert 0 firstTwin "A".toList], "B".toList, _, rfl, by simp⟩,
    by decide, by decide, by decide, fun hsame => ?_⟩
  have hfront : (((empty contentDigest 2).run (threeForTwo.take 2)).get 0 secondTwin).2.documents =
      [⟨0, firstTwin⟩, ⟨0, "b".toList⟩] := by decide
  rw [hsame] at hfront
  exact absurd hfront (by decide)

end Cache

end CodeMarkup
