import CodeMarkup.Cache
import Mathlib.Data.List.Induction

/-!
# What is found was stored last

A cache is asked one thing after the other (`CodeMarkup.Cache.Operation`): to store markup, to look
for it, to give up all that it has, or how full it is. **What it finds for a document is the markup
that was stored for this very document last**, and since the cache was emptied last
(`CodeMarkup.Cache.get_is_last_stored`), however digests clash.

The place of an entry is its digest, so documents with one digest take each other's place, and a look
at one of them brings the entry of another one to the front. Neither makes an entry wrong: an entry
says whose markup it has, so it is no hit for another document; and when there is new markup for
its own document, it has to go, since its digest is the one of its document. These two
facts on an entry are the invariant (`CodeMarkup.Cache.Recorded`).
-/

namespace CodeMarkup.Cache

variable {c : Cache} {slot : Nat} {text markup : Text} {e : CacheEntry}

/-! ### Entries -/

theorem touch_eq (d : UInt64) (c : Cache) : ∃ entries, c.touch d = { c with entries } := by
  unfold touch
  split
  · exact ⟨_, rfl⟩
  · exact ⟨c.entries, rfl⟩

/-- Looking at a digest only moves entries. -/
theorem mem_of_mem_touch {d : UInt64} (he : e ∈ (c.touch d).entries) : e ∈ c.entries := by
  unfold touch at he
  split at he
  · next e' hfind =>
    rcases List.mem_cons.1 he with rfl | he
    · exact List.mem_of_find?_eq_some hfind
    · exact (List.mem_filter.1 he).1
  · exact he

/-- Looking at a digest makes no room necessary. -/
theorem size_touch_le (d : UInt64) (c : Cache) : (c.touch d).size ≤ c.size := by
  unfold touch size
  split
  · next e hfind =>
    have hlt : (c.entries.filter (·.digest ≠ d)).length < c.entries.length :=
      List.length_filter_lt_length_iff_exists.2
        ⟨e, List.mem_of_find?_eq_some hfind, by simpa using List.find?_some hfind⟩
    exact hlt
  · exact Nat.le_refl _

/-- What is found is the markup of an entry of the same slot and text. -/
theorem exists_of_get (h : (c.get slot text).1 = some markup) :
    ∃ e ∈ c.entries, e.slot = slot ∧ e.text = text ∧ e.markup = markup := by
  obtain ⟨e, he, rfl⟩ := Option.map_eq_some_iff.1 h
  obtain ⟨hfind, hsame⟩ := Option.filter_eq_some_iff.1 he
  obtain ⟨hslot, htext⟩ : e.slot = slot ∧ e.text = text := by simpa using hsame
  exact ⟨e, List.mem_of_find?_eq_some hfind, hslot, htext, rfl⟩

/-- What is stored is in front, nothing else is new, and what had the same digest is gone. -/
theorem mem_insert (he : e ∈ (c.insert slot text markup).entries) :
    e = ⟨c.digest slot text, slot, text, markup⟩ ∨
      e ∈ c.entries ∧ e.digest ≠ c.digest slot text := by
  rcases List.mem_cons.1 (List.mem_of_mem_take he) with rfl | he
  · exact .inl rfl
  · obtain ⟨hmem, hne⟩ := List.mem_filter.1 he
    exact .inr ⟨hmem, by simpa using hne⟩

/-- **What has just been stored is found**, if there is room for anything. -/
theorem get_insert (h : 1 ≤ c.capacity) (slot : Nat) (text markup : Text) :
    ((c.insert slot text markup).get slot text).1 = some markup := by
  obtain ⟨n, hn⟩ := Nat.exists_eq_add_of_le' h
  simp [get, insert, hn]

/-! ### Operations and logs -/

/-- What a cache may be asked. -/
inductive Operation where
  /-- To store the markup of a document. -/
  | insert (slot : Nat) (text markup : Text)
  /-- To look for the markup of a document. -/
  | get (slot : Nat) (text : Text)
  /-- To give up all entries. -/
  | clear
  /-- The number of entries and their greatest number. -/
  | usage

/-- The cache after an operation. -/
def perform (c : Cache) : Operation → Cache
  | .insert slot text markup => c.insert slot text markup
  | .get slot text => (c.get slot text).2
  | .clear => c.clear
  | .usage => c

/-- The cache after the operations of a log. -/
def run (c : Cache) (log : List Operation) : Cache := log.foldl perform c

theorem run_append_singleton (c : Cache) (log : List Operation) (op : Operation) :
    c.run (log ++ [op]) = (c.run log).perform op := List.foldl_append

/-- **The last markup**: of the operations since the cache was emptied last, the last one that
stored markup for a slot and a text stored this one. -/
def LastStored (log : List Operation) (slot : Nat) (text markup : Text) : Prop :=
  ∃ before behind, log = before ++ .insert slot text markup :: behind ∧ .clear ∉ behind ∧
    ∀ markup', .insert slot text markup' ∉ behind

theorem lastStored_concat (log : List Operation) (slot : Nat) (text markup : Text) :
    LastStored (log ++ [.insert slot text markup]) slot text markup :=
  ⟨log, [], rfl, List.not_mem_nil, fun _ => List.not_mem_nil⟩

/-- The last markup is the last one after operations that do not store other markup, nor empty the
cache. -/
theorem LastStored.append_singleton {log : List Operation} (h : LastStored log slot text markup)
    {op : Operation} (hclear : op ≠ .clear) (hinsert : ∀ markup', op ≠ .insert slot text markup') :
    LastStored (log ++ [op]) slot text markup := by
  obtain ⟨before, behind, rfl, hnoclear, hnoinsert⟩ := h
  refine ⟨before, behind ++ [op], by simp, ?_, fun markup' => ?_⟩
  · simpa [hnoclear] using hclear.symm
  · simpa [hnoinsert] using (hinsert markup').symm

/-! ### The invariant -/

/-- **An operation changes the entries only.** -/
theorem perform_eq (c : Cache) (op : Operation) : ∃ entries, c.perform op = { c with entries } := by
  cases op with
  | get slot text => exact touch_eq _ c
  | insert slot text markup => exact ⟨_, rfl⟩
  | clear => exact ⟨[], rfl⟩
  | usage => exact ⟨c.entries, rfl⟩

/-- **The operations of a log change the entries only.** -/
theorem run_eq (c : Cache) (log : List Operation) : ∃ entries, c.run log = { c with entries } := by
  induction log using List.reverseRecOn with
  | nil => exact ⟨c.entries, rfl⟩
  | append_singleton log op ih =>
    obtain ⟨entries, hrun⟩ := ih
    obtain ⟨entries', hop⟩ := (c.run log).perform_eq op
    exact ⟨entries', by rw [run_append_singleton, hop, hrun]⟩

@[simp] theorem digest_run (c : Cache) (log : List Operation) : (c.run log).digest = c.digest := by
  obtain ⟨_, hrun⟩ := c.run_eq log
  rw [hrun]

@[simp] theorem capacity_run (c : Cache) (log : List Operation) :
    (c.run log).capacity = c.capacity := by
  obtain ⟨_, hrun⟩ := c.run_eq log
  rw [hrun]

/-- **No operation makes a cache too full.** -/
theorem size_perform_le (h : c.size ≤ c.capacity) (op : Operation) :
    (c.perform op).size ≤ c.capacity := by
  cases op with
  | insert slot text markup => exact List.length_take_le _ _
  | get slot text => exact Nat.le_trans (size_touch_le _ c) h
  | clear => exact Nat.zero_le _
  | usage => exact h

theorem size_run_le (h : c.size ≤ c.capacity) (log : List Operation) :
    (c.run log).size ≤ c.capacity := by
  induction log using List.reverseRecOn with
  | nil => exact h
  | append_singleton log op ih =>
    have hcapacity := capacity_run c log
    have hstep := size_perform_le (c := c.run log) (by rwa [hcapacity]) op
    rwa [run_append_singleton, ← hcapacity]

/-- That an entry is what the log says: it stands at the digest of its document, and has the last
markup of it. -/
structure Recorded (digest : Nat → Text → UInt64) (log : List Operation) (e : CacheEntry) :
    Prop where
  /-- The digest is the one of the document. -/
  digest_eq : e.digest = digest e.slot e.text
  /-- The markup is the last one of the document. -/
  lastStored : LastStored log e.slot e.text e.markup

theorem Recorded.append_singleton {digest : Nat → Text → UInt64} {log : List Operation}
    (h : Recorded digest log e) {op : Operation} (hclear : op ≠ .clear)
    (hinsert : ∀ markup', op ≠ .insert e.slot e.text markup') : Recorded digest (log ++ [op]) e :=
  ⟨h.digest_eq, h.lastStored.append_singleton hclear hinsert⟩

/-- **An operation leaves entries that are what the log says.** -/
theorem recorded_perform {digest : Nat → Text → UInt64} (hc : c.digest = digest)
    {log : List Operation} (h : ∀ e ∈ c.entries, Recorded digest log e) {op : Operation}
    (he : e ∈ (c.perform op).entries) : Recorded digest (log ++ [op]) e := by
  cases op with
  | insert slot text markup =>
    rw [perform] at he
    rcases mem_insert he with rfl | ⟨hmem, hne⟩
    · rw [hc]
      exact ⟨rfl, lastStored_concat log slot text markup⟩
    · refine (h e hmem).append_singleton nofun ?_
      -- New markup for the document of the entry would have taken its place.
      rintro markup' ⟨⟩
      rw [hc] at hne
      exact hne (h e hmem).digest_eq
  | get slot text => exact (h e (mem_of_mem_touch he)).append_singleton nofun nofun
  | clear => cases he
  | usage => exact (h e he).append_singleton nofun nofun

/-- **All entries are what the log says.** -/
theorem recorded_run (digest : Nat → Text → UInt64) (capacity : Nat) (log : List Operation) :
    ∀ e ∈ ((empty digest capacity).run log).entries, Recorded digest log e := by
  induction log using List.reverseRecOn with
  | nil => exact fun e he => absurd he List.not_mem_nil
  | append_singleton log op ih =>
    intro e he
    rw [run_append_singleton] at he
    exact recorded_perform (digest_run _ log) ih he

/-! ### Main statement -/

/-- **What is found was stored last.** Let digests be made in any way. Whatever a cache has been
asked since it was new, what it finds for a slot and a text is the markup that was stored for them
last, and since the cache was emptied last; what has just been stored is found, if there is room
for anything; and there are never more entries than there may be. -/
theorem get_is_last_stored (digest : Nat → Text → UInt64) (capacity : Nat) (log : List Operation) :
    (∀ slot text markup, (((empty digest capacity).run log).get slot text).1 = some markup →
        LastStored log slot text markup) ∧
      (1 ≤ capacity → ∀ slot text markup,
        (((empty digest capacity).run (log ++ [.insert slot text markup])).get slot text).1 =
          some markup) ∧
      ((empty digest capacity).run log).size ≤ capacity := by
  refine ⟨fun slot text markup hget => ?_, fun hcapacity slot text markup => ?_, ?_⟩
  · obtain ⟨e, he, rfl, rfl, rfl⟩ := exists_of_get hget
    exact (recorded_run digest capacity log e he).lastStored
  · rw [run_append_singleton]
    refine get_insert ?_ slot text markup
    rw [capacity_run]
    exact hcapacity
  · exact size_run_le (c := empty digest capacity) (Nat.zero_le _) log

/-- Of two documents with one digest the second one takes the place of the first one, which is then
not found; its markup is not taken for that of the first one. -/
example : (((empty (fun _ _ => 0) 2).run
    [.insert 0 ['a'] ['A'], .insert 0 ['b'] ['B']]).get 0 ['a']).1 = none := by
  decide

end CodeMarkup.Cache
