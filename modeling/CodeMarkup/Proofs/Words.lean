import CodeMarkup.Proofs.Gaps
import CodeMarkup.Proofs.Splits

/-!
# What is in one piece

A document has been cut at many places in the end, and what stood next to each other in the text may
be in two pieces. A single character is in one (`CodeMarkup.Piece.unbroken_char`), and an entity is
if the pieces are escaped (`CodeMarkup.Piece.unbroken_entity`). A word is in one piece as long as
matches begin and end between words only (`CodeMarkup.Regex.Marked.BetweenWords`): no segment ends
in the middle of a word (`CodeMarkup.Regex.Cuts.exists_segment`), so a rule that makes one piece of
each match breaks no word (`CodeMarkup.Rule.MakesOne.unbroken_onPieces`).

What this is for are spans. **What is in one piece, and is in no text, is wrapped**
(`CodeMarkup.Piece.Unbroken.wrapped`); and what is wrapped is so for good, whatever rules come
behind (`CodeMarkup.Piece.Wrapped.foldl`), also if these cut texts in the middle of words.
-/

namespace CodeMarkup

open Regex

/-! ### Words in segments -/

namespace Regex.Cuts

variable {m : Marked} {prev : Option Char} {s : Segment} {ss : List Segment}

theorem tail (h : Cuts m prev (s :: ss)) : Cuts m s.text.getLast? ss := by
  cases h with
  | hit _ _ hs => exact hs
  | gap _ _ _ hs => exact hs

/-- **No word goes over the end of a segment** if none goes over an end of a match. -/
theorem isEdge_behind (h : Cuts m prev (s :: ss)) (hm : m.BetweenWords) :
    IsEdge s.text.getLast? (Segment.covered ss).head? := by
  cases h with
  | hit hf ht _ => exact hm.behind hf ht
  | gap _ _ halone hs =>
    -- Behind a gap there is nothing, or a match.
    cases hs with
    | nil => simp [IsEdge, isWordBeside]
    | hit hf _ _ => exact hm.before hf
    | gap => exact absurd rfl (halone _ _)

/-- **A word is in one segment.** -/
theorem exists_segment (h : Cuts m prev ss) (hm : m.BetweenWords) {u w v : Text} (hne : w ≠ [])
    (hw : ∀ c ∈ w, isWord c) (hcovered : Segment.covered ss = u ++ (w ++ v)) :
    ∃ pre s post x y, ss = pre ++ s :: post ∧ s.text = x ++ (w ++ y) ∧
      u = Segment.covered pre ++ x ∧ v = y ++ Segment.covered post := by
  induction ss generalizing prev u with
  | nil => simp [hne] at hcovered
  | cons s ss ih =>
    -- The word is behind the segment, or it begins in it.
    have hbehind : ∀ z, u = s.text ++ z → Segment.covered ss = z ++ (w ++ v) →
        ∃ pre s' post x y, s :: ss = pre ++ s' :: post ∧ s'.text = x ++ (w ++ y) ∧
          u = Segment.covered pre ++ x ∧ v = y ++ Segment.covered post := by
      rintro z rfl hz
      obtain ⟨pre, s', post, x, y, rfl, htext, rfl, rfl⟩ := ih h.tail hz
      exact ⟨s :: pre, s', post, x, y, rfl, htext, by simp, rfl⟩
    rw [Segment.covered_cons] at hcovered
    rcases List.append_eq_append_iff.1 hcovered with ⟨z, hu, hz⟩ | ⟨z, hs, hz⟩
    · exact hbehind z hu hz
    · rcases List.append_eq_append_iff.1 hz with ⟨y, rfl, hv⟩ | ⟨w', rfl, hss⟩
      · exact ⟨[], s, ss, u, y, rfl, hs, rfl, hv⟩
      · rcases eq_or_ne z [] with rfl | hz
        · exact hbehind [] (by simpa using hs.symm) hss
        · rcases eq_or_ne w' [] with rfl | hw'
          · exact ⟨[], s, ss, u, [], rfl, by simpa using hs, rfl, by simpa using hss.symm⟩
          · -- The word would go over the end of the segment.
            refine absurd ⟨?_, ?_⟩ (h.isEdge_behind hm)
            · rw [hs, List.getLast?_append_of_ne_nil u hz, List.getLast?_eq_some_getLast hz]
              exact hw _ (List.mem_append_left _ (List.getLast_mem hz))
            · rw [hss, List.head?_append_of_ne_nil w' hw', List.head?_eq_some_head hw']
              exact hw _ (List.mem_append_right _ (List.head_mem hw'))

end Regex.Cuts

/-! ### What is in one piece -/

namespace Piece

variable {p : Piece} {ps : List Piece} {u w v : Text}

/-- That `w`, which stands between `u` and `v`, is in one piece. -/
def Unbroken (ps : List Piece) (u w v : Text) : Prop :=
  ∃ before p behind x y, ps = before ++ p :: behind ∧ p.content = x ++ (w ++ y) ∧
    u = contents before ++ x ∧ v = y ++ contents behind

/-- That `w`, which stands between `u` and `v`, is in a span. -/
def Wrapped (ps : List Piece) (u w v : Text) : Prop :=
  ∃ before k x y behind, ps = before ++ .span k (x ++ (w ++ y)) :: behind ∧
    u = contents before ++ x ∧ v = y ++ contents behind

theorem unbroken_cons_iff :
    Unbroken (p :: ps) u w v ↔
      (∃ y, p.content = u ++ (w ++ y) ∧ v = y ++ contents ps) ∨
        ∃ u', u = p.content ++ u' ∧ Unbroken ps u' w v := by
  constructor
  · rintro ⟨before, q, behind, x, y, hps, hq, rfl, rfl⟩
    rcases List.cons_eq_append_iff.1 hps with ⟨rfl, hp⟩ | ⟨before', rfl, rfl⟩
    · obtain ⟨rfl, rfl⟩ := List.cons.inj hp
      exact .inl ⟨y, hq, rfl⟩
    · exact .inr ⟨contents before' ++ x, by simp, before', q, behind, x, y, rfl, hq, rfl, rfl⟩
  · rintro (⟨y, hp, rfl⟩ | ⟨_, rfl, before, q, behind, x, y, rfl, hq, rfl, rfl⟩)
    · exact ⟨[], p, ps, u, y, rfl, hp, rfl, rfl⟩
    · exact ⟨p :: before, q, behind, x, y, rfl, hq, by simp, rfl⟩

/-- What is in one piece is so if texts that are neighbours become one. -/
theorem Unbroken.cons (hne : w ≠ []) (h : Unbroken (p :: ps) u w v) :
    Unbroken (cons p ps) u w v := by
  cases p with
  | text t =>
    rcases cons_text t ps with ⟨hps, rfl⟩ | ⟨s, qs, rfl, hps⟩ | hps
    · rw [hps]
      rcases unbroken_cons_iff.1 h with ⟨y, ht, -⟩ | ⟨u', rfl, hrest⟩
      · simp [content, hne] at ht
      · exact hrest
    · rw [hps]
      -- What is in one of the two texts is in the one that is made of them.
      rcases unbroken_cons_iff.1 h with ⟨y, ht, rfl⟩ | ⟨u', rfl, hrest⟩
      · obtain rfl : t = u ++ (w ++ y) := ht
        exact unbroken_cons_iff.2 (.inl ⟨y ++ s, by simp [content], by simp [content]⟩)
      · rcases unbroken_cons_iff.1 hrest with ⟨y, hs, rfl⟩ | ⟨u'', rfl, hqs⟩
        · exact unbroken_cons_iff.2 (.inl ⟨y, by simpa [content] using hs, rfl⟩)
        · exact unbroken_cons_iff.2 (.inr ⟨u'', by simp [content], hqs⟩)
    · rwa [hps]
  | span | markup => exact h

/-- **What is in one piece is in one of the normal form.** -/
theorem Unbroken.merge (hne : w ≠ []) (h : Unbroken ps u w v) : Unbroken (merge ps) u w v := by
  induction ps generalizing u with
  | nil =>
    obtain ⟨before, p, behind, -, -, hps, -⟩ := h
    simp at hps
  | cons p ps ih =>
    refine Unbroken.cons hne (unbroken_cons_iff.2 ((unbroken_cons_iff.1 h).imp ?_ ?_))
    · rintro ⟨y, hp, rfl⟩
      exact ⟨y, hp, congrArg (y ++ ·) (contents_merge ps).symm⟩
    · rintro ⟨u', rfl, hps⟩
      exact ⟨u', rfl, ih hps⟩

/-- **A character is in one piece.** -/
theorem unbroken_char {c : Char} (h : contents ps = u ++ c :: v) : Unbroken ps u [c] v := by
  induction ps generalizing u with
  | nil => simp at h
  | cons p ps ih =>
    rw [contents_cons] at h
    rcases List.append_eq_append_iff.1 h with ⟨z, rfl, hz⟩ | ⟨z, hp, hz⟩
    · exact unbroken_cons_iff.2 (.inr ⟨z, rfl, ih hz⟩)
    · rcases List.cons_eq_append_iff.1 hz with ⟨rfl, hps⟩ | ⟨y, rfl, rfl⟩
      · have hrest : contents ps = [] ++ c :: v := hps
        exact unbroken_cons_iff.2 (.inr ⟨[], by simpa using hp.symm, ih hrest⟩)
      · exact unbroken_cons_iff.2 (.inl ⟨y, hp, rfl⟩)

open Markup in
/-- **An entity is in one piece** if all pieces are escaped texts. -/
theorem unbroken_entity (hesc : ∀ p ∈ ps, IsEscaped p.content) {e : Entity}
    (h : contents ps = u ++ (e.text ++ v)) : Unbroken ps u e.text v := by
  obtain ⟨before, p, behind, x, y, rfl, hp, rfl, hy⟩ := unbroken_char h
  obtain ⟨e', y', rfl⟩ := (hesc p (by simp)).entitiesWhole x y hp
  -- The entity that the piece has at this place is the one that the text has there.
  rw [List.append_assoc] at hy
  obtain ⟨rfl, rfl⟩ := Entity.text_append_inj (congrArg ('&' :: ·) hy : e.text ++ v = e'.text ++ _)
  exact ⟨before, p, behind, x, y', rfl, hp, rfl, rfl⟩

/-- **What is in one piece and in no text is wrapped**, where there is no markup. -/
theorem Unbroken.wrapped (h : Unbroken ps u w v) (hsolid : ∀ p ∈ ps, p.IsSolid)
    (hno : ∀ x y, .text (x ++ (w ++ y)) ∈ ps → ¬(x <:+ u ∧ y <+: v)) : Wrapped ps u w v := by
  obtain ⟨before, p, behind, x, y, rfl, hp, rfl, rfl⟩ := h
  have hmem : p ∈ before ++ p :: behind := by simp
  cases p with
  | text t =>
    obtain rfl : t = x ++ (w ++ y) := hp
    exact absurd ⟨List.suffix_append _ _, List.prefix_append _ _⟩ (hno x y hmem)
  | span k t =>
    obtain rfl : t = x ++ (w ++ y) := hp
    exact ⟨before, k, x, y, behind, rfl, rfl, rfl⟩
  | markup => exact (hsolid _ hmem).elim

/-- **What is wrapped stays so.** -/
theorem Wrapped.foldl (h : Wrapped ps u w v) {rules : List Rule}
    (hspells : ∀ rule ∈ rules, rule.Spells) :
    Wrapped (rules.foldl (fun ps rule => rule.onPieces ps) ps) u w v := by
  obtain ⟨before, k, x, y, behind, rfl, rfl, rfl⟩ := h
  obtain ⟨before', behind', hfold, hbefore, hbehind⟩ := RuleSet.sealed_foldl hspells
    (p := .span k (x ++ (w ++ y))) (fun h => h) before behind
  exact ⟨before', k, x, y, behind', hfold, by rw [hbefore], by rw [hbehind]⟩

end Piece

/-! ### Rules that break no word -/

namespace Rule.MakesOne

open Piece

variable {rule : Rule} {u w v : Text}

theorem unbroken_onText (h : rule.MakesOne) (hm : rule.pattern.body.BetweenWords) (hne : w ≠ [])
    (hw : ∀ c ∈ w, isWord c) : Unbroken (rule.onText (u ++ (w ++ v))) u w v := by
  obtain ⟨pre, s, post, x, y, hss, htext, rfl, rfl⟩ :=
    (cuts_segments rule.pattern (u ++ (w ++ v))).exists_segment hm hne hw
      (covered_segments rule.pattern _)
  obtain ⟨p, hp, hcontent⟩ := h.onSegment _ (0 + (Segment.covered pre).length) s
  rw [onText, hss, onSegments_append, onSegments_cons, hp, List.singleton_append]
  refine ⟨_, p, _, x, y, rfl, hcontent.trans htext, ?_, ?_⟩
  · rw [h.contents_onSegments]
  · rw [h.contents_onSegments]

/-- **A rule that makes one piece of each match breaks no word**, if no word goes over an end of a
match. -/
theorem unbroken_onPieces (h : rule.MakesOne) (hspells : rule.Spells)
    (hm : rule.pattern.body.BetweenWords) (hne : w ≠ []) (hw : ∀ c ∈ w, isWord c) {ps : List Piece}
    (hps : Unbroken ps u w v) : Unbroken (rule.onPieces ps) u w v := by
  obtain ⟨before, p, behind, x, y, rfl, hp, rfl, rfl⟩ := hps
  have hpiece : Unbroken (rule.onPiece p) x w y := by
    cases p with
    | text t =>
      obtain rfl : t = x ++ (w ++ y) := hp
      exact h.unbroken_onText hm hne hw
    | span | markup => exact ⟨[], _, [], x, y, rfl, hp, rfl, (List.append_nil y).symm⟩
  obtain ⟨before', q, behind', x', y', honPiece, hq, rfl, rfl⟩ := hpiece
  refine Unbroken.merge hne ⟨before.flatMap rule.onPiece ++ before', q,
    behind' ++ behind.flatMap rule.onPiece, x', y', ?_, hq, ?_, ?_⟩
  · rw [List.flatMap_append, List.flatMap_cons, honPiece]
    simp
  · rw [contents_append, hspells.contents_flatMap, List.append_assoc]
  · rw [contents_append, hspells.contents_flatMap, List.append_assoc]

end Rule.MakesOne

end CodeMarkup
