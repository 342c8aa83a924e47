import CodeMarkup.Proofs.Regex.Ways

/-!
# The segments of a text

The segments into which an expression cuts a text are those of a scan from left to
right: at each place the best match is taken if it takes something, and else the
character behind the place belongs to a gap. `CodeMarkup.Regex.Cuts` says this of a
list of segments, with the character before them, and
`CodeMarkup.Regex.cuts_segments` that the segments of a text are such a list. They
**spell out the text** (`CodeMarkup.Regex.covered_segments`).

The rows of a text are computed for all places at once, and a match is passed over by
leaving out rows. So the one thing to see is that leaving out the rows of a match
leaves the rows of the text behind it (`CodeMarkup.Regex.Marked.drop_sweep`), and this
holds since a match takes what stands there. What is shown of the segments of all texts is
shown along the scan (`CodeMarkup.Regex.Marked.scan_induction`).

The place of a segment is behind the text that the segments before it cover
(`CodeMarkup.Regex.Segment.mem_placed_iff`).
-/

namespace CodeMarkup.Regex

/-- The text that segments cover. -/
def Segment.covered (ss : List Segment) : Text := ss.flatMap Segment.text

@[simp] theorem Segment.covered_nil : Segment.covered [] = [] := rfl

@[simp] theorem Segment.covered_cons (s : Segment) (ss : List Segment) :
    Segment.covered (s :: ss) = s.text ++ Segment.covered ss := rfl

@[simp] theorem Segment.covered_append (ss ss' : List Segment) :
    Segment.covered (ss ++ ss') = Segment.covered ss ++ Segment.covered ss' := by
  simp [Segment.covered]

@[simp] theorem Segment.covered_consGap (c : Char) (ss : List Segment) :
    Segment.covered (Segment.consGap c ss) = c :: Segment.covered ss := by
  rcases ss with _ | ⟨t | r, ss⟩ <;> simp [Segment.consGap, Segment.text]

/-! ### The places of segments -/

theorem Segment.placed_append (n : Nat) (ss ss' : List Segment) :
    Segment.placed n (ss ++ ss') =
      Segment.placed n ss ++ Segment.placed (n + (Segment.covered ss).length) ss' := by
  induction ss generalizing n with
  | nil => rfl
  | cons s ss ih =>
    rw [List.cons_append, placed, placed, ih, covered_cons, List.length_append, Nat.add_assoc]
    rfl

/-- Without their places they are the segments. -/
theorem Segment.flatMap_text_placed (n : Nat) (ss : List Segment) :
    (Segment.placed n ss).flatMap (fun s => s.2.text) = Segment.covered ss := by
  induction ss generalizing n with
  | nil => rfl
  | cons s ss ih => rw [placed, List.flatMap_cons, ih, covered_cons]

/-- **A segment stands behind those before it.** -/
theorem Segment.mem_placed_iff {n k : Nat} {s : Segment} {ss : List Segment} :
    (k, s) ∈ Segment.placed n ss ↔
      ∃ before behind, ss = before ++ s :: behind ∧ k = n + (Segment.covered before).length := by
  constructor
  · intro h
    induction ss generalizing n with
    | nil => cases h
    | cons s' ss ih =>
      rcases List.mem_cons.1 h with h | h
      · obtain ⟨rfl, rfl⟩ := Prod.mk.inj h
        exact ⟨[], ss, rfl, rfl⟩
      · obtain ⟨before, behind, rfl, rfl⟩ := ih h
        exact ⟨s' :: before, behind, rfl, by simp [Nat.add_assoc]⟩
  · rintro ⟨before, behind, rfl, rfl⟩
    rw [placed_append]
    exact List.mem_append_right _ List.mem_cons_self

theorem Segment.mem_of_mem_placed {n k : Nat} {s : Segment} {ss : List Segment}
    (h : (k, s) ∈ Segment.placed n ss) : s ∈ ss := by
  obtain ⟨before, behind, rfl, -⟩ := mem_placed_iff.1 h
  simp

/-! ### Cutting at matches -/

/-- That segments cut the text they cover at the matches of an expression, where `prev`
precedes the text. -/
inductive Cuts (m : Marked) : Option Char → List Segment → Prop where
  /-- Nothing is left to cut. -/
  | nil (prev : Option Char) : Cuts m prev []
  /-- The best match takes something. -/
  | hit {prev : Option Char} {r : Run} {ss : List Segment}
      (found : m.matchAt? prev (r.taken ++ Segment.covered ss) = some r) (taken : r.taken ≠ [])
      (behind : Cuts m r.taken.getLast? ss) : Cuts m prev (.hit r :: ss)
  /-- A gap: none of its characters begins a match that takes something. -/
  | gap {prev : Option Char} {t : Text} {ss : List Segment} (nonempty : t ≠ [])
      (bare : ∀ u c v r, t = u ++ c :: v →
        m.matchAt? (u.getLast?.or prev) (c :: v ++ Segment.covered ss) = some r → r.taken = [])
      (alone : ∀ u ss', ss ≠ .gap u :: ss') (behind : Cuts m t.getLast? ss) :
      Cuts m prev (.gap t :: ss)

/-- The character before a place, behind a text that stands there. -/
theorem getLast?_append_or (u v : Text) (prev : Option Char) :
    (u ++ v).getLast?.or prev = v.getLast?.or (u.getLast?.or prev) := by
  rw [List.getLast?_append, Option.or_assoc]

/-- Behind a text that is not empty the character before it does not matter. -/
theorem getLast?_or_of_ne_nil {u : Text} (h : u ≠ []) (prev : Option Char) :
    u.getLast?.or prev = u.getLast? := by
  rw [List.getLast?_eq_some_getLast h, Option.some_or]

/-- The character before a place, behind one character more. -/
theorem getLast?_cons_or (c : Char) (u : Text) (prev : Option Char) :
    (c :: u).getLast?.or prev = u.getLast?.or (some c) := by
  rw [List.getLast?_cons]
  cases u.getLast? <;> rfl

namespace Cuts

variable {m : Marked} {prev : Option Char} {ss pre post : List Segment}

/-- **The segments behind some of them** are cut from what is behind these. -/
theorem of_append (h : Cuts m prev (pre ++ post)) :
    Cuts m ((Segment.covered pre).getLast?.or prev) post := by
  induction pre generalizing prev with
  | nil => exact h
  | cons s pre ih =>
    rw [Segment.covered_cons, getLast?_append_or]
    rw [List.cons_append] at h
    cases h with
    | hit _ ht hs =>
      rw [Segment.text, getLast?_or_of_ne_nil ht]
      exact ih hs
    | gap ht _ _ hs =>
      rw [Segment.text, getLast?_or_of_ne_nil ht]
      exact ih hs

/-- A match among the segments is found at its place, and takes something. -/
theorem exists_matchAt?_of_mem (h : Cuts m prev ss) {r : Run} (hr : .hit r ∈ ss) :
    r.taken ≠ [] ∧ ∃ prev' t, m.matchAt? prev' t = some r := by
  obtain ⟨pre, post, rfl⟩ := List.append_of_mem hr
  have hs := h.of_append
  cases hs with
  | hit hf ht _ => exact ⟨ht, _, _, hf⟩

/-- A gap of one character, before segments that do not begin with a gap. -/
theorem gap_single {c : Char} (h : Cuts m (some c) ss)
    (hc : ∀ r, m.matchAt? prev (c :: Segment.covered ss) = some r → r.taken = [])
    (ha : ∀ u ss', ss ≠ .gap u :: ss') : Cuts m prev (.gap [c] :: ss) := by
  refine .gap (by simp) (fun u d v r huv hr => ?_) ha h
  cases u with
  | nil =>
    obtain ⟨rfl, rfl⟩ : c = d ∧ v = [] := by simpa [eq_comm] using huv
    exact hc r hr
  | cons => simp at huv

/-- A character that begins no match that takes something, before segments. -/
theorem consGap {c : Char} (h : Cuts m (some c) ss)
    (hc : ∀ r, m.matchAt? prev (c :: Segment.covered ss) = some r → r.taken = []) :
    Cuts m prev (Segment.consGap c ss) := by
  cases h with
  | nil => exact gap_single (.nil _) hc (by simp)
  | hit hf ht hs => exact gap_single (.hit hf ht hs) hc (by simp)
  | @gap _ t ss' ht hb ha hs =>
    refine .gap (by simp) (fun u d v r huv hr => ?_) ha ?_
    · cases u with
      | nil =>
        obtain ⟨rfl, rfl⟩ : c = d ∧ t = v := by simpa using huv
        exact hc r hr
      | cons e u =>
        obtain ⟨rfl, rfl⟩ : c = e ∧ t = u ++ d :: v := by simpa using huv
        exact hb u d v r rfl (by rwa [← getLast?_cons_or c u prev])
    · cases t with
      | nil => exact absurd rfl ht
      | cons d t => simpa [List.getLast?_cons_cons] using hs

end Cuts

/-! ### The segments of rows -/

/-- Rows that belong to a match already are left out. -/
theorem Segment.ofRows_eq_drop (n : Nat) (rows : List (Char × Option Run)) :
    Segment.ofRows n rows = Segment.ofRows 0 (rows.drop n) := by
  induction n generalizing rows with
  | zero => rfl
  | succ n ih =>
    cases rows with
    | nil => rfl
    | cons row rows => exact ih rows

/-- The rows behind a part of a text are those of the text behind it. -/
theorem Marked.drop_sweep (m : Marked) (prev : Option Char) (u t : Text) :
    (m.sweep prev (u ++ t)).1.drop u.length = (m.sweep (u.getLast?.or prev) t).1 := by
  induction u generalizing prev with
  | nil => rfl
  | cons c u ih =>
    rw [List.cons_append, Marked.sweep_rows_cons, List.length_cons, List.drop_succ_cons, ih,
      getLast?_cons_or]

/-- The segments of a text that `prev` precedes. -/
def Marked.segmentsFrom (m : Marked) (prev : Option Char) (t : Text) : List Segment :=
  Segment.ofRows 0 (m.sweep prev t).1

/-- **A match is taken**, and the scan goes on behind it. -/
theorem Marked.segmentsFrom_hit {m : Marked} {prev : Option Char} {t : Text} {r : Run}
    (h : m.matchAt? prev (r.taken ++ t) = some r) (hr : r.taken ≠ []) :
    m.segmentsFrom prev (r.taken ++ t) = .hit r :: m.segmentsFrom r.taken.getLast? t := by
  obtain ⟨c, u, hu⟩ := List.exists_cons_of_ne_nil hr
  have hrows : (m.sweep (some c) (u ++ t)).1.drop u.length = (m.sweep r.taken.getLast? t).1 := by
    rw [m.drop_sweep, hu]
    cases u <;> simp [List.getLast?_cons]
  rw [segmentsFrom, segmentsFrom, ← hrows, ← Segment.ofRows_eq_drop]
  rw [hu, List.cons_append] at h ⊢
  rw [sweep_rows_cons, h]
  simp [Segment.ofRows, hu]

/-- **No match is taken**: the character belongs to a gap. -/
theorem Marked.segmentsFrom_cons {m : Marked} {prev : Option Char} {c : Char} {t : Text}
    (h : ∀ r, m.matchAt? prev (c :: t) = some r → r.taken = []) :
    m.segmentsFrom prev (c :: t) = Segment.consGap c (m.segmentsFrom (some c) t) := by
  rw [segmentsFrom, sweep_rows_cons]
  cases hm : m.matchAt? prev (c :: t) with
  | none => rfl
  | some r => simp [Segment.ofRows, h r hm, segmentsFrom]

/-- **Induction along the scan**: where a match takes something the scan goes on with what is behind
the match, which is shorter, and else with the tail. -/
theorem Marked.scan_induction (m : Marked) {motive : Option Char → Text → Prop}
    (nil : ∀ prev, motive prev [])
    (hit : ∀ prev r t, m.matchAt? prev (r.taken ++ t) = some r → r.taken ≠ [] →
      motive r.taken.getLast? t → motive prev (r.taken ++ t))
    (gap : ∀ prev c t, (∀ r, m.matchAt? prev (c :: t) = some r → r.taken = []) →
      motive (some c) t → motive prev (c :: t))
    (prev : Option Char) (t : Text) : motive prev t := by
  induction hn : t.length using Nat.strongRecOn generalizing prev t with
  | _ n ih =>
    cases t with
    | nil => exact nil prev
    | cons c t =>
      by_cases h : ∀ r, m.matchAt? prev (c :: t) = some r → r.taken = []
      · exact gap prev c t h (ih t.length (by simp [← hn]) (some c) t rfl)
      · push Not at h
        obtain ⟨r, hfound, hr⟩ := h
        obtain ⟨t', ht⟩ := (reads_matchAt? hfound).exists_append
        rw [ht] at hfound hn ⊢
        have hlt : t'.length < n := by
          have := List.length_pos_of_ne_nil hr
          rw [List.length_append] at hn
          omega
        exact hit prev r t' hfound hr (ih t'.length hlt r.taken.getLast? t' rfl)

/-- **The segments of a text are those of a scan**, and they cover it. -/
theorem Marked.cuts_segmentsFrom (m : Marked) (prev : Option Char) (t : Text) :
    Cuts m prev (m.segmentsFrom prev t) ∧ Segment.covered (m.segmentsFrom prev t) = t := by
  induction prev, t using m.scan_induction with
  | nil prev => exact ⟨.nil prev, rfl⟩
  | hit prev r t hfound hr ih =>
    obtain ⟨hcut, hcov⟩ := ih
    rw [segmentsFrom_hit hfound hr]
    exact ⟨.hit (by rwa [hcov]) hr hcut, by simp [Segment.text, hcov]⟩
  | gap prev c t h ih =>
    obtain ⟨hcut, hcov⟩ := ih
    rw [segmentsFrom_cons h]
    exact ⟨hcut.consGap (by rwa [hcov]), by rw [Segment.covered_consGap, hcov]⟩

/-- **Segments are those of a scan from left to right.** -/
theorem cuts_segments (re : Regex) (t : Text) : Cuts re.body none (re.segments t) :=
  (re.body.cuts_segmentsFrom none t).1

/-- **Segments spell out the text.** -/
theorem covered_segments (re : Regex) (t : Text) : Segment.covered (re.segments t) = t :=
  (re.body.cuts_segmentsFrom none t).2

end CodeMarkup.Regex
