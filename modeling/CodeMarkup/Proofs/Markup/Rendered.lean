import CodeMarkup.Piece
import CodeMarkup.Proofs.Markup.Entities
import CodeMarkup.Settings

/-!
# Rendered markup

What the markup of a document looks like, as long as it has no markup pieces: each
span is its opening tag, its content and its closing tag, and no other tag occurs. The
only thing asked for is that no content has an angle bracket and that the prefix of
the classes has none of the characters that mean something in a tag
(`CodeMarkup.Piece.IsPrefix`), which checked settings guarantee.

Four facts follow, each by induction on the pieces. Leaving the tags out leaves the
contents of the pieces in a row, `CodeMarkup.Piece.contents`
(`CodeMarkup.Piece.strip_renderAll`). **No span wraps a span**, since behind an opening
tag there is a character of the content or the closing tag, so collapsing changes
nothing (`CodeMarkup.Piece.collapse_renderAll`). The markup is flat: a row of bare texts
and of spans with bare texts (`CodeMarkup.Markup.Flat`). And the entities of the markup
are whole if all pieces are escaped texts (`CodeMarkup.Piece.entitiesWhole_renderAll`);
where they are, they are whole in the contents too, and up to each edge of a span
(`CodeMarkup.Piece.entitiesWhole_of_append_span`).
-/

namespace CodeMarkup

/-- A name of a class has letters only. -/
theorem SpanClass.isAlphanum_of_mem_name {k : SpanClass} {c : Char} (h : c ∈ k.name.toList) :
    c.isAlphanum := by
  have hall : k.name.toList.all Char.isAlphanum := by cases k <;> decide
  exact List.all_eq_true.1 hall c h

/-- A character of the prefix means nothing in a tag or in a text. -/
theorem Settings.isPrefixChar_ne {c : Char} (h : isPrefixChar c) :
    c ≠ '<' ∧ c ≠ '>' ∧ c ≠ '"' ∧ c ≠ '&' := by
  refine ⟨?_, ?_, ?_, ?_⟩ <;>
    · rintro rfl
      exact absurd h (by decide)

/-- Settings that are sound have a prefix of letters, digits, `-` and `_`. -/
theorem Settings.isPrefixChar_of_validate {s : Settings} (h : s.validate = .ok ()) {c : Char}
    (hc : c ∈ s.classPrefix.toList) : isPrefixChar c := by
  unfold validate at h
  split at h
  · cases h
  · next hall =>
    have hall : s.classPrefix.toList.all isPrefixChar = true := by simpa using hall
    exact List.all_eq_true.1 hall c hc

namespace Markup

/-! ### Texts without tags and tags -/

/-- A tag is left out. -/
theorem strip_tag {s : Text} (h : '>' ∉ s) (t : Text) : strip ('<' :: (s ++ '>' :: t)) = strip t := by
  have hin : stripFrom true (s ++ '>' :: t) = stripFrom false t := by
    induction s with
    | nil => rfl
    | cons c s ih =>
      obtain ⟨hc, hs⟩ : '>' ≠ c ∧ '>' ∉ s := by simpa using h
      rw [List.cons_append, stripFrom]
      split
      · exact ih hs
      · simpa [hc.symm] using ih hs
  exact hin

theorem afterStart?_append (s t : Text) : afterStart? s (s ++ t) = some t := by
  simp [afterStart?]

/-- The opening tag of a span up to its class, without the angle bracket. -/
def spanStart : Text := "span class=\"".toList

/-- The closing tag of a span, without its angle brackets. -/
def spanEnd : Text := "/span".toList

theorem spanOpen_eq : spanOpen = '<' :: spanStart := by decide

theorem spanMid_eq : spanMid = ['"', '>'] := by decide

theorem spanClose_eq : spanClose = '<' :: (spanEnd ++ ['>']) := by decide

theorem afterOpenTag?_of_ne {c : Char} (h : c ≠ '<') (t : Text) : afterOpenTag? (c :: t) = none := by
  have hne : ('<' == c) = false := by simpa using h.symm
  simp only [afterOpenTag?, afterStart?, spanOpen_eq, List.isPrefixOf_cons_cons, hne, Bool.false_and,
    Bool.false_eq_true, if_false, Option.bind_none]

theorem afterOpenTag?_close (t : Text) : afterOpenTag? (spanClose ++ t) = none := by
  have h : ∀ u : Text, spanOpen.isPrefixOf ('<' :: '/' :: u) = false := fun _ => rfl
  rw [afterOpenTag?, afterStart?, show spanClose = '<' :: '/' :: "span>".toList by decide,
    List.cons_append, List.cons_append, h]
  rfl

theorem wrapped?_of_afterOpenTag? {t : Text}
    (h : ∀ u, afterOpenTag? t = some u → afterOpenTag? u = none) : wrapped? t = none := by
  unfold wrapped? afterPlainSpan?
  cases ht : afterOpenTag? t with
  | none => rfl
  | some u => simp [h u ht]

/-- A text without `<` is passed over. -/
theorem collapseFrom_append {s : Text} (h : '<' ∉ s) (t : Text) :
    collapseFrom 0 (s ++ t) = s ++ collapseFrom 0 t := by
  induction s with
  | nil => rfl
  | cons c s ih =>
    obtain ⟨hc, hs⟩ : '<' ≠ c ∧ '<' ∉ s := by simpa using h
    have hw : wrapped? (c :: (s ++ t)) = none :=
      wrapped?_of_afterOpenTag? fun u hu => by
        rw [afterOpenTag?_of_ne hc.symm] at hu
        cases hu
    rw [List.cons_append, collapseFrom, hw]
    exact congrArg (c :: ·) (ih hs)

/-- If a pass changes nothing, collapsing changes nothing. -/
theorem collapse_eq_self {t : Text} (h : collapseOnce t = t) : collapse t = t := by
  unfold collapse
  cases t.length with
  | zero => rfl
  | succ n => simp [collapseUpTo, h]

end Markup

namespace Piece

open Markup

/-! ### Contents -/

/-- What the pieces hold, one after the other. -/
def contents (ps : List Piece) : Text := ps.flatMap content

@[simp] theorem contents_nil : contents [] = [] := rfl

@[simp] theorem contents_cons (p : Piece) (ps : List Piece) :
    contents (p :: ps) = p.content ++ contents ps := rfl

@[simp] theorem contents_append (ps qs : List Piece) :
    contents (ps ++ qs) = contents ps ++ contents qs := by
  simp [contents]

/-- A character that a piece holds is one of the contents. -/
theorem mem_contents {p : Piece} {ps : List Piece} (hp : p ∈ ps) {c : Char} (hc : c ∈ p.content) :
    c ∈ contents ps :=
  List.mem_flatMap.2 ⟨p, hp, hc⟩

/-! ### Tags -/

/-- That a text can stand before the names of classes: letters, digits, `-` and `_`. -/
def IsPrefix (classPrefix : Text) : Prop := ∀ c ∈ classPrefix, Settings.isPrefixChar c

/-- That a piece is a text or a span, and no markup. -/
def IsPlain : Piece → Prop
  | markup _ => False
  | _ => True

/-- What the opening tag of a span has between its angle brackets. -/
def openTag (classPrefix : Text) (k : SpanClass) : Text :=
  spanStart ++ (classPrefix ++ (k.name.toList ++ ['"']))

theorem render_span (classPrefix : Text) (k : SpanClass) (t : Text) :
    render classPrefix (span k t) =
      '<' :: (openTag classPrefix k ++ '>' :: (t ++ '<' :: (spanEnd ++ ['>']))) := by
  simp only [render, openTag, spanOpen_eq, spanMid_eq, spanClose_eq, List.cons_append,
    List.append_assoc, List.nil_append]

@[simp] theorem renderAll_nil (classPrefix : Text) : renderAll classPrefix [] = [] := rfl

@[simp] theorem renderAll_cons (classPrefix : Text) (p : Piece) (ps : List Piece) :
    renderAll classPrefix (p :: ps) = render classPrefix p ++ renderAll classPrefix ps := rfl

@[simp] theorem renderAll_append (classPrefix : Text) (ps qs : List Piece) :
    renderAll classPrefix (ps ++ qs) = renderAll classPrefix ps ++ renderAll classPrefix qs := by
  simp [renderAll]

variable {classPrefix : Text}

/-- The value of the class attribute means nothing in a tag. -/
theorem IsPrefix.ne_of_mem_attribute (hP : IsPrefix classPrefix) {k : SpanClass} {c : Char}
    (hc : c ∈ classPrefix ++ k.name.toList) : c ≠ '<' ∧ c ≠ '>' ∧ c ≠ '"' ∧ c ≠ '&' := by
  refine Settings.isPrefixChar_ne ?_
  rcases List.mem_append.1 hc with hc | hc
  · exact hP c hc
  · simp [Settings.isPrefixChar, SpanClass.isAlphanum_of_mem_name hc]

theorem IsPrefix.not_mem_openTag (hP : IsPrefix classPrefix) (k : SpanClass) :
    '<' ∉ openTag classPrefix k ∧ '>' ∉ openTag classPrefix k ∧ '&' ∉ openTag classPrefix k := by
  have hmem : ∀ c, c ∈ openTag classPrefix k →
      c ∈ spanStart ∨ c ∈ classPrefix ++ k.name.toList := by
    intro c hc
    simp only [openTag, List.mem_append, List.mem_singleton] at hc ⊢
    rcases hc with hc | hc | hc | rfl
    · exact .inl hc
    · exact .inr (.inl hc)
    · exact .inr (.inr hc)
    · exact .inl (by decide)
  refine ⟨fun hc => ?_, fun hc => ?_, fun hc => ?_⟩ <;>
    rcases hmem _ hc with h | h
  · exact absurd h (by decide)
  · exact (hP.ne_of_mem_attribute h).1 rfl
  · exact absurd h (by decide)
  · exact (hP.ne_of_mem_attribute h).2.1 rfl
  · exact absurd h (by decide)
  · exact (hP.ne_of_mem_attribute h).2.2.2 rfl

/-! ### Leaving the tags out -/

/-- **Leaving the tags out leaves the contents.** -/
theorem strip_renderAll (hP : IsPrefix classPrefix) {ps : List Piece} (hps : ∀ p ∈ ps, p.IsPlain)
    (hc : ∀ p ∈ ps, '<' ∉ p.content) : strip (renderAll classPrefix ps) = contents ps := by
  induction ps with
  | nil => rfl
  | cons p ps ih =>
    have ih := ih (fun q hq => hps q (by simp [hq])) fun q hq => hc q (by simp [hq])
    have hp : ∀ c ∈ p.content, c ≠ '<' := fun c hcp hlt => hc p (by simp) (hlt ▸ hcp)
    have hplain := hps p (by simp)
    rw [renderAll_cons, contents_cons]
    cases p with
    | text t =>
      rw [content] at hp ⊢
      rw [render, strip_append_of_forall_ne hp, ih]
    | markup t => exact hplain.elim
    | span k t =>
      have hclose : '>' ∉ spanEnd := by decide
      rw [content] at hp ⊢
      rw [render_span, List.cons_append, List.append_assoc, List.cons_append,
        strip_tag (hP.not_mem_openTag k).2.1, List.append_assoc,
        strip_append_of_forall_ne hp, List.cons_append, List.append_assoc, List.singleton_append,
        strip_tag hclose, ih]

/-! ### No span wraps a span -/

/-- Behind the opening tag of a span there is no opening tag. -/
theorem wrapped?_renderAll_span (hP : IsPrefix classPrefix) {k : SpanClass} {t : Text}
    (ht : '<' ∉ t) (rest : Text) :
    wrapped? (render classPrefix (span k t) ++ rest) = none := by
  refine wrapped?_of_afterOpenTag? fun u hu => ?_
  have hquote : ∀ c ∈ classPrefix ++ k.name.toList, c ≠ '"' := fun c hc =>
    (hP.ne_of_mem_attribute hc).2.2.1
  have hdrop : ((classPrefix ++ k.name.toList) ++ '"' :: '>' :: (t ++ spanClose ++ rest)).dropWhile
      (· ≠ '"') = '"' :: '>' :: (t ++ spanClose ++ rest) := by
    rw [List.dropWhile_append_of_pos fun c hc => by simpa using hquote c hc]
    simp
  have hrender : render classPrefix (span k t) ++ rest =
      spanOpen ++ ((classPrefix ++ k.name.toList) ++ '"' :: '>' :: (t ++ spanClose ++ rest)) := by
    simp only [render, spanMid_eq, List.cons_append, List.append_assoc, List.nil_append]
  obtain rfl : t ++ spanClose ++ rest = u := by
    rw [hrender, afterOpenTag?, afterStart?_append, Option.bind_some, hdrop] at hu
    have hmid : '"' :: '>' :: (t ++ spanClose ++ rest) = spanMid ++ (t ++ spanClose ++ rest) := by
      rw [spanMid_eq]
      rfl
    rw [hmid, afterStart?_append] at hu
    exact Option.some.inj hu
  cases t with
  | nil =>
    rw [List.nil_append]
    exact afterOpenTag?_close rest
  | cons c t =>
    obtain ⟨hc, -⟩ : '<' ≠ c ∧ '<' ∉ t := by simpa using ht
    exact afterOpenTag?_of_ne hc.symm _

theorem collapseOnce_renderAll (hP : IsPrefix classPrefix) {ps : List Piece}
    (hps : ∀ p ∈ ps, p.IsPlain) (hc : ∀ p ∈ ps, '<' ∉ p.content) :
    collapseOnce (renderAll classPrefix ps) = renderAll classPrefix ps := by
  induction ps with
  | nil => rfl
  | cons p ps ih =>
    have ih : collapseFrom 0 (renderAll classPrefix ps) = renderAll classPrefix ps :=
      ih (fun q hq => hps q (by simp [hq])) fun q hq => hc q (by simp [hq])
    have hp := hc p (by simp)
    have hplain := hps p (by simp)
    rw [renderAll_cons, collapseOnce]
    cases p with
    | text t =>
      rw [content] at hp
      rw [render, collapseFrom_append hp, ih]
    | markup t => exact hplain.elim
    | span k t =>
      rw [content] at hp
      have hopen := wrapped?_renderAll_span hP (k := k) hp (renderAll classPrefix ps)
      have hclose : wrapped? (spanClose ++ renderAll classPrefix ps) = none :=
        wrapped?_of_afterOpenTag? fun u hu => by
          rw [afterOpenTag?_close] at hu
          cases hu
      -- What stands between the two angle brackets that open has none.
      have hbetween : '<' ∉ openTag classPrefix k ++ '>' :: t := by
        simpa using ⟨(hP.not_mem_openTag k).1, hp⟩
      have hend : '<' ∉ spanEnd ++ ['>'] := by decide
      rw [spanClose_eq, List.cons_append] at hclose
      rw [render_span, List.cons_append] at hopen ⊢
      rw [collapseFrom, hopen]
      have hassoc : openTag classPrefix k ++ '>' :: (t ++ '<' :: (spanEnd ++ ['>'])) ++
            renderAll classPrefix ps =
          (openTag classPrefix k ++ '>' :: t) ++
            '<' :: (spanEnd ++ ['>'] ++ renderAll classPrefix ps) := by simp
      dsimp only
      rw [hassoc, collapseFrom_append hbetween, collapseFrom, hclose]
      dsimp only
      rw [collapseFrom_append hend, ih]

/-- **Collapsing changes nothing** where there is no markup from an emitter. -/
theorem collapse_renderAll (hP : IsPrefix classPrefix) {ps : List Piece}
    (hps : ∀ p ∈ ps, p.IsPlain) (hc : ∀ p ∈ ps, '<' ∉ p.content) :
    collapse (renderAll classPrefix ps) = renderAll classPrefix ps :=
  collapse_eq_self (collapseOnce_renderAll hP hps hc)

end Piece

/-! ### Flat markup -/

namespace Markup

/-- A text that has something in it, but no angle bracket. -/
def Bare (t : Text) : Prop := t ≠ [] ∧ ∀ c ∈ t, c ≠ '<' ∧ c ≠ '>'

/-- A segment of flat markup. -/
inductive FlatSegment (classPrefix : Text) : Text → Prop where
  /-- A bare text. -/
  | text {t : Text} (ht : Bare t) : FlatSegment classPrefix t
  /-- A bare text in a span. -/
  | span (k : SpanClass) {t : Text} (ht : Bare t) :
      FlatSegment classPrefix
        ("<span class=\"".toList ++ (classPrefix ++ k.name.toList) ++ "\">".toList ++ t ++
          "</span>".toList)

/-- **Flat markup**: bare texts and spans with bare texts, one after the other. -/
def Flat (classPrefix markup : Text) : Prop :=
  ∃ segments : List Text, markup = segments.flatten ∧ ∀ s ∈ segments, FlatSegment classPrefix s

theorem flat_nil (classPrefix : Text) : Flat classPrefix [] := ⟨[], rfl, by simp⟩

theorem Flat.cons {classPrefix s markup : Text} (hs : FlatSegment classPrefix s)
    (h : Flat classPrefix markup) : Flat classPrefix (s ++ markup) := by
  obtain ⟨segments, rfl, hall⟩ := h
  exact ⟨s :: segments, rfl, by simpa using ⟨hs, hall⟩⟩

/-- A text without angle brackets is flat, also if it is empty. -/
theorem flat_of_ne_angle {classPrefix t markup : Text} (ht : ∀ c ∈ t, c ≠ '<' ∧ c ≠ '>')
    (h : Flat classPrefix markup) : Flat classPrefix (t ++ markup) := by
  cases t with
  | nil => exact h
  | cons c t => exact h.cons (.text ⟨by simp, ht⟩)

end Markup

namespace Piece

/-- That a piece is a text, or a span that has something in it. -/
def IsSolid : Piece → Prop
  | text _ => True
  | span _ t => t ≠ []
  | markup _ => False

theorem IsSolid.isPlain {p : Piece} (h : p.IsSolid) : p.IsPlain := by
  cases p with
  | text | span => trivial
  | markup => exact h

/-- **The markup of solid pieces is flat.** -/
theorem flat_renderAll (classPrefix : Text) {ps : List Piece} (hps : ∀ p ∈ ps, p.IsSolid)
    (hc : ∀ p ∈ ps, ∀ c ∈ p.content, c ≠ '<' ∧ c ≠ '>') :
    Markup.Flat classPrefix (renderAll classPrefix ps) := by
  induction ps with
  | nil => exact Markup.flat_nil classPrefix
  | cons p ps ih =>
    have ih := ih (fun q hq => hps q (by simp [hq])) fun q hq => hc q (by simp [hq])
    have hp := hc p (by simp)
    have hsolid := hps p (by simp)
    rw [renderAll_cons]
    cases p with
    | text t => exact Markup.flat_of_ne_angle hp ih
    | markup t => exact hsolid.elim
    | span k t =>
      have h : Markup.FlatSegment classPrefix _ := .span k ⟨hsolid, hp⟩
      rw [← List.append_assoc] at h
      exact ih.cons h

/-! ### Whole entities -/

variable {classPrefix : Text}

/-- A span is the text of its tags, without ampersands, and its content in between. -/
theorem entitiesWhole_render_span (hP : IsPrefix classPrefix) {k : SpanClass} {t : Text}
    (ht : Markup.EntitiesWhole t) : Markup.EntitiesWhole (render classPrefix (span k t)) := by
  have hopen : '&' ∉ '<' :: (openTag classPrefix k ++ ['>']) := by
    simpa using (hP.not_mem_openTag k).2.2
  have hclose : '&' ∉ '<' :: (Markup.spanEnd ++ ['>']) := by decide
  have hrender : render classPrefix (span k t) =
      '<' :: (openTag classPrefix k ++ ['>']) ++ (t ++ '<' :: (Markup.spanEnd ++ ['>'])) := by
    rw [render_span]
    simp
  rw [hrender]
  exact (Markup.entitiesWhole_of_not_mem hopen).append
    (ht.append (Markup.entitiesWhole_of_not_mem hclose))

/-- **If all pieces are escaped texts, entities are whole in the markup.** -/
theorem entitiesWhole_renderAll (hP : IsPrefix classPrefix) {ps : List Piece}
    (hc : ∀ p ∈ ps, Markup.IsEscaped p.content) :
    Markup.EntitiesWhole (renderAll classPrefix ps) := by
  induction ps with
  | nil => exact Markup.entitiesWhole_of_not_mem (by simp)
  | cons p ps ih =>
    have hp := (hc p (by simp)).entitiesWhole
    rw [renderAll_cons]
    refine Markup.EntitiesWhole.append ?_ (ih fun q hq => hc q (by simp [hq]))
    cases p with
    | text t => exact hp
    | markup t => exact hp
    | span k t => exact entitiesWhole_render_span hP hp

/-- What has no `<` in it and begins the markup begins the contents. -/
theorem prefix_contents {ps : List Piece} (hps : ∀ p ∈ ps, p.IsPlain) {s : Text}
    (h : s <+: renderAll classPrefix ps) (hs : '<' ∉ s) : s <+: contents ps := by
  induction ps generalizing s with
  | nil => exact h
  | cons p ps ih =>
    have hplain := hps p (by simp)
    rw [renderAll_cons] at h
    cases p with
    | text t =>
      rcases Markup.prefix_append_cases h with h | ⟨a, rfl, ha⟩
      · exact h.trans (List.prefix_append t _)
      · have ha := ih (fun q hq => hps q (by simp [hq])) ha fun hm => hs (by simp [hm])
        exact (List.prefix_append_right_inj t).2 ha
    | markup t => exact hplain.elim
    | span k t =>
      rw [render_span] at h
      have hnil := Markup.prefix_of_prefix_angle (t := []) h hs
      obtain rfl := List.prefix_nil.1 hnil
      exact List.nil_prefix

/-- **Where entities are whole in the markup, they are whole in the contents.** -/
theorem entitiesWhole_contents {ps : List Piece} (hps : ∀ p ∈ ps, p.IsPlain)
    (h : Markup.EntitiesWhole (renderAll classPrefix ps)) : Markup.EntitiesWhole (contents ps) := by
  induction ps with
  | nil => exact h
  | cons p ps ih =>
    have hplain := hps p (by simp)
    have htail : ∀ q ∈ ps, q.IsPlain := fun q hq => hps q (by simp [hq])
    rw [renderAll_cons] at h
    have ih := ih htail h.of_append
    rw [contents_cons]
    cases p with
    | markup t => exact hplain.elim
    | text t =>
      intro u v huv
      rcases List.append_eq_append_iff.1 huv with ⟨a, rfl, ha⟩ | ⟨a, hat, ha⟩
      · exact ih a v ha
      · cases a with
        | nil => exact ih [] v ha.symm
        | cons d a =>
          obtain ⟨rfl, rfl⟩ := List.cons.inj ha
          obtain rfl : t = u ++ '&' :: a := hat
          obtain ⟨e, he⟩ := h u (a ++ renderAll classPrefix ps) (by simp [render])
          -- The entity may go on in the text behind this one, but not behind a tag.
          have hall : ∀ q ∈ text a :: ps, q.IsPlain := List.forall_mem_cons.2 ⟨trivial, htail⟩
          have hprefix : e.tail <+: contents (text a :: ps) :=
            prefix_contents hall he e.not_mem_tail.2
          exact ⟨e, hprefix⟩
    | span k t =>
      refine Markup.EntitiesWhole.append ?_ ih
      rw [render_span] at h
      have h' : Markup.EntitiesWhole
          (('<' :: (openTag classPrefix k ++ ['>'])) ++
            (t ++ '<' :: (Markup.spanEnd ++ ['>'] ++ renderAll classPrefix ps))) := by
        simpa using h
      exact h'.of_append.of_append_angle

/-- Where entities are whole in the markup, they are whole up to each edge of a span. -/
theorem entitiesWhole_of_append_span {ps qs : List Piece} {k : SpanClass} {t : Text}
    (h : Markup.EntitiesWhole (renderAll classPrefix (ps ++ span k t :: qs))) :
    Markup.EntitiesWhole (renderAll classPrefix ps) ∧
      Markup.EntitiesWhole (renderAll classPrefix (ps ++ [span k t])) := by
  have hbefore : renderAll classPrefix (ps ++ span k t :: qs) =
      renderAll classPrefix ps ++ '<' :: (openTag classPrefix k ++ '>' :: (t ++
        '<' :: (Markup.spanEnd ++ '>' :: renderAll classPrefix qs))) := by
    simp [render_span]
  have hbehind : renderAll classPrefix (ps ++ span k t :: qs) =
      (renderAll classPrefix ps ++ '<' :: (openTag classPrefix k ++ '>' :: t)) ++
        '<' :: (Markup.spanEnd ++ '>' :: renderAll classPrefix qs) := by
    simp [render_span]
  have hspan : renderAll classPrefix (ps ++ [span k t]) =
      (renderAll classPrefix ps ++ '<' :: (openTag classPrefix k ++ '>' :: t)) ++
        '<' :: (Markup.spanEnd ++ ['>']) := by
    simp [render_span]
  have hclose : '&' ∉ '<' :: (Markup.spanEnd ++ ['>']) := by decide
  constructor
  · rw [hbefore] at h
    exact h.of_append_angle
  · rw [hbehind] at h
    rw [hspan]
    exact h.of_append_angle.append (Markup.entitiesWhole_of_not_mem hclose)

end Piece

end CodeMarkup
