import CodeMarkup.Proofs.Markup.Rendered
import Mathlib.Data.List.TakeWhile

/-!
# Markup of whole tags

An emitter may write markup of its own. What is asked of it is that it writes whole tags:
opening tags of spans and closing tags, and characters that are no angle brackets
(`CodeMarkup.Markup.Tagged`). The tags need not be paired, and those of one piece may be
paired with those of another.

Here collapsing really leaves tags out, and the one thing to see is that **it leaves out
whole tags only**. What the search finds (`CodeMarkup.Markup.exists_of_wrapped?`) begins
with an angle bracket, so at the start of a tag; the class it reads ends at the first
quote, which is where the class of this tag ends; and the characters that it passes over
up to the next angle bracket belong to no tag. So the text without tags stays as it is,
in each pass and in all of them (`CodeMarkup.Markup.Tagged.strip_collapse`).
-/

namespace CodeMarkup.Markup

/-! ### Whole tags -/

/-- The opening tag of a span, with its class. -/
def spanTag (v : Text) : Text := spanOpen ++ v ++ spanMid

/-- Markup put together from whole tags of spans and from characters that are no angle
brackets. -/
inductive Tagged : Text → Prop where
  /-- Nothing. -/
  | nil : Tagged []
  /-- A character that is no angle bracket. -/
  | char {c : Char} {t : Text} (hc : c ≠ '<' ∧ c ≠ '>') (ht : Tagged t) : Tagged (c :: t)
  /-- An opening tag, whose class has no quote and no angle bracket. -/
  | opening {v t : Text} (hv : ∀ c ∈ v, c ≠ '"' ∧ c ≠ '<' ∧ c ≠ '>') (ht : Tagged t) :
      Tagged (spanTag v ++ t)
  /-- A closing tag. -/
  | close {t : Text} (ht : Tagged t) : Tagged (spanClose ++ t)

theorem spanTag_append (v t : Text) :
    spanTag v ++ t = '<' :: ((spanStart ++ v ++ ['"']) ++ '>' :: t) := by
  simp [spanTag, spanOpen_eq, spanMid_eq]

theorem spanClose_append (t : Text) : spanClose ++ t = '<' :: (spanEnd ++ '>' :: t) := by
  simp [spanClose_eq]

/-- An opening tag is no closing tag. -/
theorem spanTag_append_ne (v t u : Text) : spanTag v ++ t ≠ spanClose ++ u := by
  intro h
  have hsecond : (spanTag v ++ t)[1]? = some 's' := rfl
  rw [h] at hsecond
  cases hsecond

variable {s t u v x : Text}

/-- Tagged markup is empty, or begins with a character or with a tag. -/
theorem Tagged.cases (h : Tagged s) :
    s = [] ∨ (∃ c t, s = c :: t ∧ (c ≠ '<' ∧ c ≠ '>') ∧ Tagged t) ∨
      (∃ v t, s = spanTag v ++ t ∧ (∀ c ∈ v, c ≠ '"' ∧ c ≠ '<' ∧ c ≠ '>') ∧ Tagged t) ∨
        ∃ t, s = spanClose ++ t ∧ Tagged t := by
  cases h with
  | nil => exact .inl rfl
  | char hc ht => exact .inr (.inl ⟨_, _, rfl, hc, ht⟩)
  | opening hv ht => exact .inr (.inr (.inl ⟨_, _, rfl, hv, ht⟩))
  | close ht => exact .inr (.inr (.inr ⟨_, rfl, ht⟩))

theorem Tagged.append (hs : Tagged s) (ht : Tagged t) : Tagged (s ++ t) := by
  induction hs with
  | nil => exact ht
  | char hc _ ih => exact .char hc ih
  | opening hv _ ih =>
    rw [List.append_assoc]
    exact .opening hv ih
  | close _ ih =>
    rw [List.append_assoc]
    exact .close ih

/-- A text without angle brackets has no tags. -/
theorem tagged_of_ne_angle (h : ∀ c ∈ s, c ≠ '<' ∧ c ≠ '>') : Tagged s := by
  induction s with
  | nil => exact .nil
  | cons c s ih =>
    obtain ⟨hc, hs⟩ := List.forall_mem_cons.1 h
    exact .char hc (ih hs)

/-! ### Behind a tag or a text -/

/-- Texts up to the first quote are the same if the texts with what follows are. -/
theorem eq_of_append_quote (hv : '"' ∉ v) (hx : '"' ∉ x) (h : v ++ '"' :: t = x ++ '"' :: u) :
    v = x ∧ t = u := by
  rcases List.append_eq_append_iff.1 h with ⟨_ | ⟨c, a⟩, rfl, ha⟩ | ⟨_ | ⟨c, a⟩, rfl, ha⟩
  · exact ⟨(List.append_nil v).symm, (List.cons.inj ha).2⟩
  · obtain ⟨rfl, -⟩ := List.cons.inj ha
    exact absurd (by simp) hx
  · exact ⟨List.append_nil x, (List.cons.inj ha).2.symm⟩
  · obtain ⟨rfl, -⟩ := List.cons.inj ha
    exact absurd (by simp) hv

/-- The markup behind an opening tag: the class of the tag ends at the first quote. -/
theorem Tagged.of_opening (h : Tagged (spanTag v ++ t)) (hv : '"' ∉ v) :
    (∀ c ∈ v, c ≠ '"' ∧ c ≠ '<' ∧ c ≠ '>') ∧ Tagged t := by
  rcases h.cases with he | ⟨c, u, he, hc, -⟩ | ⟨w, u, he, hw, hu⟩ | ⟨u, he, -⟩
  · rw [spanTag_append] at he
    cases he
  · rw [spanTag_append] at he
    exact absurd (List.cons.inj he).1.symm hc.1
  · have hquote : '"' ∉ w := fun hmem => (hw _ hmem).1 rfl
    have hclass : v ++ '"' :: '>' :: t = w ++ '"' :: '>' :: u := by
      simpa [spanTag, spanMid_eq] using he
    obtain ⟨rfl, htail⟩ := eq_of_append_quote hv hquote hclass
    obtain ⟨-, rfl⟩ := List.cons.inj htail
    exact ⟨hw, hu⟩
  · exact absurd he (spanTag_append_ne v t u)

theorem Tagged.of_close (h : Tagged (spanClose ++ t)) : Tagged t := by
  rcases h.cases with he | ⟨c, u, he, hc, -⟩ | ⟨w, u, he, -, -⟩ | ⟨u, he, hu⟩
  · rw [spanClose_append] at he
    cases he
  · rw [spanClose_append] at he
    exact absurd (List.cons.inj he).1.symm hc.1
  · exact absurd he.symm (spanTag_append_ne w u t)
  · obtain rfl := List.append_cancel_left he
    exact hu

/-- The markup behind a text: where no tag begins there is no angle bracket. -/
theorem Tagged.of_text (h : Tagged (x ++ t)) (hx : '<' ∉ x) :
    (∀ c ∈ x, c ≠ '<' ∧ c ≠ '>') ∧ Tagged t := by
  induction x with
  | nil => exact ⟨by simp, h⟩
  | cons d x ih =>
    obtain ⟨hd, hx⟩ : '<' ≠ d ∧ '<' ∉ x := by simpa using hx
    rcases h.cases with he | ⟨c, u, he, hc, hu⟩ | ⟨w, u, he, -, -⟩ | ⟨u, he, -⟩
    · cases he
    · obtain ⟨rfl, rfl⟩ := List.cons.inj he
      obtain ⟨hx, ht⟩ := ih hu hx
      exact ⟨List.forall_mem_cons.2 ⟨hc, hx⟩, ht⟩
    · rw [spanTag_append] at he
      exact absurd (List.cons.inj he).1.symm hd
    · rw [spanClose_append] at he
      exact absurd (List.cons.inj he).1.symm hd

/-! ### Leaving the tags out -/

theorem strip_spanTag (hv : '>' ∉ v) (t : Text) : strip (spanTag v ++ t) = strip t := by
  rw [spanTag_append]
  refine strip_tag ?_ t
  have hstart : '>' ∉ spanStart := by decide
  simpa [hstart] using hv

theorem strip_spanClose (t : Text) : strip (spanClose ++ t) = strip t := by
  rw [spanClose_append]
  exact strip_tag (by decide) t

/-- A text without angle brackets has no tags to leave out. -/
theorem strip_of_ne_angle (h : ∀ c ∈ s, c ≠ '<' ∧ c ≠ '>') : strip s = s := by
  have hall := strip_append_of_forall_ne (fun c hc => (h c hc).1) []
  rw [List.append_nil] at hall
  exact hall.trans (List.append_nil s)

theorem strip_cons_of_ne {c : Char} (hc : c ≠ '<') (t : Text) : strip (c :: t) = c :: strip t :=
  strip_append_of_forall_ne (s := [c]) (by simpa using hc) t

/-- **Tags are left out piece by piece**, since none of them goes on behind tagged markup. -/
theorem Tagged.strip_append (hs : Tagged s) (t : Text) : strip (s ++ t) = strip s ++ strip t := by
  induction hs with
  | nil => rfl
  | char hc _ ih =>
    rw [List.cons_append, strip_cons_of_ne hc.1, strip_cons_of_ne hc.1, ih, List.cons_append]
  | opening hv _ ih =>
    have hclass := fun hmem => (hv '>' hmem).2.2 rfl
    rw [List.append_assoc, strip_spanTag hclass, strip_spanTag hclass, ih]
  | close _ ih => rw [List.append_assoc, strip_spanClose, strip_spanClose, ih]

/-! ### What the search finds -/

theorem eq_append_of_afterStart? (h : afterStart? s t = some u) : t = s ++ u := by
  unfold afterStart? at h
  split at h
  · next hprefix =>
    obtain ⟨w, rfl⟩ := List.isPrefixOf_iff_prefix.1 hprefix
    simpa using h
  · cases h

/-- An opening tag ends behind the first quote of its class. -/
theorem exists_of_afterOpenTag? (h : afterOpenTag? t = some u) :
    ∃ v, '"' ∉ v ∧ t = spanTag v ++ u := by
  obtain ⟨w, hstart, hmid⟩ := Option.bind_eq_some_iff.1 h
  refine ⟨w.takeWhile (· ≠ '"'), fun hmem => ?_, ?_⟩
  · simpa using List.mem_takeWhile_imp hmem
  · rw [spanTag, List.append_assoc, List.append_assoc, ← eq_append_of_afterStart? hmid,
      List.takeWhile_append_dropWhile]
    exact eq_append_of_afterStart? hstart

theorem exists_of_afterPlainSpan? (h : afterPlainSpan? t = some u) :
    ∃ v x, '"' ∉ v ∧ '<' ∉ x ∧ t = spanTag v ++ (x ++ (spanClose ++ u)) := by
  obtain ⟨w, hopen, hclose⟩ := Option.bind_eq_some_iff.1 h
  obtain ⟨v, hv, rfl⟩ := exists_of_afterOpenTag? hopen
  refine ⟨v, w.takeWhile (· ≠ '<'), hv, fun hmem => ?_, ?_⟩
  · simpa using List.mem_takeWhile_imp hmem
  · rw [← eq_append_of_afterStart? hclose, List.takeWhile_append_dropWhile]

/-- **What the search finds**: an opening tag, a span that holds text only, and a closing tag. -/
theorem exists_of_wrapped? {inner : Text} {n : Nat} (h : wrapped? t = some (inner, n)) :
    ∃ v w x rest, '"' ∉ v ∧ '"' ∉ w ∧ '<' ∉ x ∧ inner = spanTag w ++ (x ++ spanClose) ∧
      t = (spanTag v ++ inner ++ spanClose) ++ rest ∧
      n = (spanTag v ++ inner ++ spanClose).length := by
  obtain ⟨u, hopen, h⟩ := Option.bind_eq_some_iff.1 h
  obtain ⟨behind, hspan, h⟩ := Option.bind_eq_some_iff.1 h
  obtain ⟨rest, hclose, h⟩ := Option.bind_eq_some_iff.1 h
  obtain ⟨v, hv, rfl⟩ := exists_of_afterOpenTag? hopen
  obtain ⟨w, x, hw, hx, rfl⟩ := exists_of_afterPlainSpan? hspan
  obtain rfl := eq_append_of_afterStart? hclose
  obtain ⟨rfl, rfl⟩ := Prod.mk.inj (Option.some.inj h)
  have hinner : ∀ behind : Text, (spanTag w ++ (x ++ (spanClose ++ behind))).take
      ((spanTag w ++ (x ++ (spanClose ++ behind))).length - behind.length) =
        spanTag w ++ (x ++ spanClose) := by
    intro behind
    have hassoc : spanTag w ++ (x ++ (spanClose ++ behind)) =
        (spanTag w ++ (x ++ spanClose)) ++ behind := by simp
    rw [hassoc, List.length_append, Nat.add_sub_cancel, List.take_left]
  refine ⟨v, w, x, rest, hv, hw, hx, hinner _, ?_, ?_⟩
  · rw [hinner]
    simp
  · rw [hinner]
    simp
    omega

/-! ### Collapsing -/

/-- Characters that have been dealt with are left out. -/
theorem collapseFrom_eq_drop (n : Nat) (t : Text) : collapseFrom n t = collapseFrom 0 (t.drop n) := by
  induction n generalizing t with
  | zero => rfl
  | succ n ih =>
    cases t with
    | nil => rfl
    | cons c t => exact ih t

/-- Where the search finds something, the inner span takes its place. -/
theorem collapseFrom_of_wrapped? {outer inner rest : Text} (hne : outer ≠ [])
    (h : wrapped? (outer ++ rest) = some (inner, outer.length)) :
    collapseFrom 0 (outer ++ rest) = inner ++ collapseFrom 0 rest := by
  obtain ⟨c, outer, rfl⟩ := List.exists_cons_of_ne_nil hne
  rw [List.cons_append] at h ⊢
  rw [collapseFrom, h]
  dsimp only
  rw [List.length_cons, Nat.add_sub_cancel, collapseFrom_eq_drop, List.drop_left]

/-- Where the search finds nothing at a tag, the tag stays. -/
theorem collapseFrom_tag (h : wrapped? ('<' :: (s ++ '>' :: t)) = none) (hs : '<' ∉ s) :
    collapseFrom 0 ('<' :: (s ++ '>' :: t)) = '<' :: (s ++ '>' :: collapseFrom 0 t) := by
  have hs' : '<' ∉ s ++ ['>'] := by simpa using hs
  rw [collapseFrom, h, List.append_cons s '>' t, List.append_cons s '>' (collapseFrom 0 t)]
  exact congrArg ('<' :: ·) (collapseFrom_append hs' t)

/-- **The tags that are found are tags that have been written.** So the inner span and what comes
behind the outer one are tagged, and no character outside of tags is left out. -/
theorem Tagged.of_wrapped? {inner : Text} {n : Nat} (h : Tagged t)
    (hw : wrapped? t = some (inner, n)) :
    ∃ outer rest, t = outer ++ rest ∧ n = outer.length ∧ outer ≠ [] ∧ Tagged inner ∧ Tagged rest ∧
      strip t = strip inner ++ strip rest := by
  obtain ⟨v, w, x, rest, hv, hw', hx, hinner, rfl, rfl⟩ := exists_of_wrapped? hw
  have hne : spanTag v ++ inner ++ spanClose ≠ [] := by
    rw [List.append_assoc, spanTag_append]
    exact List.cons_ne_nil _ _
  have hassoc : spanTag v ++ inner ++ spanClose ++ rest =
      spanTag v ++ (inner ++ (spanClose ++ rest)) := by simp
  rw [hassoc] at h
  obtain ⟨hclass, hbehind⟩ := h.of_opening hv
  have hspan : inner ++ (spanClose ++ rest) =
      spanTag w ++ (x ++ (spanClose ++ (spanClose ++ rest))) := by simp [hinner]
  obtain ⟨hclass', htext⟩ := (hspan ▸ hbehind).of_opening hw'
  obtain ⟨hx', hclose⟩ := htext.of_text hx
  have hin : Tagged inner := by
    have hend : Tagged (spanClose ++ []) := .close .nil
    rw [List.append_nil] at hend
    exact hinner ▸ .opening hclass' ((tagged_of_ne_angle hx').append hend)
  refine ⟨_, rest, rfl, rfl, hne, hin, hclose.of_close.of_close, ?_⟩
  rw [hassoc, strip_spanTag fun hmem => (hclass _ hmem).2.2 rfl, hin.strip_append, strip_spanClose]

/-- **A pass over tagged markup leaves out whole tags only.** -/
theorem Tagged.collapseOnce (h : Tagged t) :
    Tagged (collapseOnce t) ∧ strip (collapseOnce t) = strip t := by
  -- Behind a span that wraps a span the pass goes on with a shorter text, but not with the tail.
  induction hn : t.length using Nat.strongRecOn generalizing t with
  | _ n ih =>
    have ih : ∀ {u}, u.length < t.length → Tagged u →
        Tagged (collapseFrom 0 u) ∧ strip (collapseFrom 0 u) = strip u :=
      fun hlt hu => ih _ (hn ▸ hlt) hu rfl
    rw [Markup.collapseOnce]
    cases hw : wrapped? t with
    | some found =>
      obtain ⟨inner, n'⟩ := found
      obtain ⟨outer, rest, rfl, rfl, hne, hinner, hrest, hstrip⟩ := h.of_wrapped? hw
      have hlt : rest.length < (outer ++ rest).length := by
        have := List.length_pos_of_ne_nil hne
        simp
        omega
      obtain ⟨ih, ihstrip⟩ := ih hlt hrest
      rw [collapseFrom_of_wrapped? hne hw, hinner.strip_append, ihstrip, hstrip]
      exact ⟨hinner.append ih, rfl⟩
    | none =>
      cases h with
      | nil => exact ⟨.nil, rfl⟩
      | @char c u hc hu =>
        obtain ⟨ih, ihstrip⟩ := ih (by simp) hu
        rw [collapseFrom, hw]
        exact ⟨.char hc ih, by rw [strip_cons_of_ne hc.1, strip_cons_of_ne hc.1, ihstrip]⟩
      | @opening v u hv hu =>
        obtain ⟨ih, ihstrip⟩ := ih (by simp [spanTag_append]; omega) hu
        have hclass : '>' ∉ v := fun hmem => (hv _ hmem).2.2 rfl
        have hstart : '<' ∉ spanStart := by decide
        have hbody : '<' ∉ spanStart ++ v ++ ['"'] := by
          simpa [hstart] using fun hmem => (hv _ hmem).2.1 rfl
        rw [spanTag_append] at hw
        rw [spanTag_append, collapseFrom_tag hw hbody, ← spanTag_append, ← spanTag_append,
          strip_spanTag hclass, strip_spanTag hclass]
        exact ⟨.opening hv ih, ihstrip⟩
      | @close u hu =>
        obtain ⟨ih, ihstrip⟩ := ih (by simp [spanClose_append]; omega) hu
        rw [spanClose_append] at hw
        rw [spanClose_append, collapseFrom_tag hw (by decide), ← spanClose_append,
          ← spanClose_append, strip_spanClose, strip_spanClose]
        exact ⟨.close ih, ihstrip⟩

theorem Tagged.strip_collapseUpTo (h : Tagged t) (n : Nat) : strip (collapseUpTo n t) = strip t := by
  induction n generalizing t with
  | zero => rfl
  | succ n ih =>
    obtain ⟨hpass, hstrip⟩ := h.collapseOnce
    rw [collapseUpTo]
    split
    · rfl
    · exact (ih hpass).trans hstrip

/-- **Collapsing tagged markup does not change the text without tags.** -/
theorem Tagged.strip_collapse (h : Tagged t) : strip (collapse t) = strip t :=
  h.strip_collapseUpTo t.length

end CodeMarkup.Markup
