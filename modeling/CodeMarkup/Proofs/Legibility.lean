import CodeMarkup.Proofs.Highlighter
import CodeMarkup.Proofs.NormalForm
import CodeMarkup.Scanner
import Mathlib.Data.List.TakeWhile

/-!
# Pieces read back from markup

The pieces that markup was made from can be read off it
(`CodeMarkup.Piece.ofMarkup?`), if there are texts and spans only, in their normal form, and none
of them holds the character that opens a tag (`CodeMarkup.Piece.IsLegible`). Up to the next tag
there is one text then, and at a tag there is a span, whose content goes up to the tag behind it.

Nothing is asked of the prefix of the classes, which may hold quotes or whole tags. It is known,
so it is read as a word, and the name of the class ends at the first quote behind it. So
**the reader answers for the markup of legible pieces, with these pieces, and for no other text**
(`CodeMarkup.Piece.ofMarkup?_eq_some_iff`), and no two rows of legible pieces have the
same markup (`CodeMarkup.Piece.renderAll_inj`).

What rules that spell out their matches make of an escaped text is legible; so the pieces of a
document can be read off the markup that a highlighter gives for it
(`CodeMarkup.Highlighter.ofMarkup?_render`).
-/

namespace CodeMarkup

open Markup

theorem SpanClass.name_of_ofName? {name : String} {k : SpanClass} (h : ofName? name = some k) :
    k.name = name := by
  simpa using List.find?_some h

theorem SpanClass.quote_not_mem_name (k : SpanClass) : '"' ∉ k.name.toList := fun h =>
  absurd (isAlphanum_of_mem_name h) (by decide)

namespace Piece

/-! ### The reader -/

/-- The span that a text begins with. -/
def spanAt? (classPrefix : Text) : Scanner Piece := fun t => do
  let t ← Scanner.word (spanOpen ++ classPrefix) t
  let (name, t) := Scanner.chars (· ≠ '"') t
  let k ← SpanClass.ofName? (String.ofList name)
  let t ← Scanner.word spanMid t
  let (x, t) := Scanner.chars (· ≠ '<') t
  let t ← Scanner.word spanClose t
  return (.span k x, t)

variable {classPrefix : Text}

/-- **A span is read where it stands.** -/
theorem spanAt?_render (k : SpanClass) {x : Text} (hx : '<' ∉ x) (r : Text) :
    spanAt? classPrefix (render classPrefix (.span k x) ++ r) = some (.span k x, r) := by
  have hname : Scanner.chars (· ≠ '"') (k.name.toList ++ (spanMid ++ (x ++ (spanClose ++ r)))) =
      (k.name.toList, spanMid ++ (x ++ (spanClose ++ r))) :=
    Scanner.chars_append (fun c hc => by simpa using ne_of_mem_of_not_mem hc k.quote_not_mem_name)
      fun c hc => by
        obtain rfl : '"' = c := by simpa [spanMid_eq] using hc
        rfl
  have hcontent : Scanner.chars (· ≠ '<') (x ++ (spanClose ++ r)) = (x, spanClose ++ r) :=
    Scanner.chars_append (fun c hc => by simpa using ne_of_mem_of_not_mem hc hx)
      fun c hc => by
        obtain rfl : '<' = c := by simpa [spanClose_eq] using hc
        rfl
  have htext : render classPrefix (.span k x) ++ r = (spanOpen ++ classPrefix) ++
      (k.name.toList ++ (spanMid ++ (x ++ (spanClose ++ r)))) := by
    simp [render]
  rw [htext]
  simp only [spanAt?, Scanner.word_append, hname, hcontent, String.ofList_toList,
    SpanClass.ofName?_name, Option.bind_eq_bind, Option.bind_some]
  rfl

/-- **Nothing else is read as a span.** -/
theorem exists_of_spanAt? {t r : Text} {p : Piece} (h : spanAt? classPrefix t = some (p, r)) :
    ∃ k x, p = .span k x ∧ '<' ∉ x ∧ t = render classPrefix p ++ r := by
  simp only [spanAt?, Scanner.chars, Option.bind_eq_bind, Option.bind_eq_some_iff,
    Scanner.word_eq_some_iff] at h
  obtain ⟨t₁, rfl, k, hk, t₂, hmid, t₃, hclose, heq⟩ := h
  obtain ⟨rfl, rfl⟩ : Piece.span k (t₂.takeWhile (· ≠ '<')) = p ∧ t₃ = r := by simpa using heq
  refine ⟨k, _, rfl, fun hlt => by simpa using List.mem_takeWhile_imp hlt, ?_⟩
  have hname : k.name.toList = t₁.takeWhile (· ≠ '"') := by
    simp [SpanClass.name_of_ofName? hk]
  have ht₁ : k.name.toList ++ (spanMid ++ t₂) = t₁ := by
    rw [hname, ← hmid, List.takeWhile_append_dropWhile]
  have ht₂ : t₂.takeWhile (· ≠ '<') ++ (spanClose ++ t₃) = t₂ := by
    rw [← hclose, List.takeWhile_append_dropWhile]
  rw [← ht₁]
  conv_lhs => rw [← ht₂]
  simp [render]

theorem length_lt_of_spanAt? {t r : Text} {p : Piece} (h : spanAt? classPrefix t = some (p, r)) :
    r.length < t.length := by
  obtain ⟨k, x, rfl, -, rfl⟩ := exists_of_spanAt? h
  simp only [render_span, List.cons_append, List.length_cons, List.length_append]
  omega

/-- The pieces that markup is made from, with `classPrefix` before the names of classes. -/
def ofMarkup? (classPrefix : Text) : Text → Option (List Piece)
  | [] => some []
  | c :: t =>
    if c = '<' then
      match _h : spanAt? classPrefix (c :: t) with
      | some (p, r) => (ofMarkup? classPrefix r).map (p :: ·)
      | none => none
    else
      (ofMarkup? classPrefix (t.dropWhile (· ≠ '<'))).map
        (.text (c :: t.takeWhile (· ≠ '<')) :: ·)
  termination_by t => t.length
  decreasing_by
  · exact length_lt_of_spanAt? _h
  · exact Nat.lt_succ_of_le (List.length_dropWhile_le _ t)

/-- A span is read, and then what is behind it. -/
theorem ofMarkup?_of_spanAt? {t r : Text} {p : Piece} (h : spanAt? classPrefix t = some (p, r)) :
    ofMarkup? classPrefix t = (ofMarkup? classPrefix r).map (p :: ·) := by
  obtain ⟨k, x, rfl, -, rfl⟩ := exists_of_spanAt? h
  rw [render_span, List.cons_append] at *
  rw [ofMarkup?.eq_def]
  simp only [if_true]
  split
  · next q r' hq =>
    obtain ⟨rfl, rfl⟩ : _ = q ∧ _ = r' := by simpa using h.symm.trans hq
    rfl
  · next hnone => cases h.symm.trans hnone

/-- A text is read up to the next tag, and then what is behind it. -/
theorem ofMarkup?_append {x r : Text} (hne : x ≠ []) (hx : '<' ∉ x) (hr : ∀ c ∈ r.head?, c = '<') :
    ofMarkup? classPrefix (x ++ r) = (ofMarkup? classPrefix r).map (.text x :: ·) := by
  obtain ⟨c, x, rfl⟩ := List.exists_cons_of_ne_nil hne
  obtain ⟨hc, hx⟩ : '<' ≠ c ∧ '<' ∉ x := by simpa using hx
  have hchars : Scanner.chars (· ≠ '<') (x ++ r) = (x, r) :=
    Scanner.chars_append (fun d hd => by simpa using ne_of_mem_of_not_mem hd hx) fun d hd => by
      simp [hr d hd]
  obtain ⟨htake, hdrop⟩ := Prod.mk.inj hchars
  rw [List.cons_append, ofMarkup?, if_neg hc.symm, htake, hdrop]

/-! ### Legible pieces -/

/-- That pieces can be read off their markup: there are texts and spans in their normal form, and no
tag begins inside of them. -/
structure IsLegible (ps : List Piece) : Prop where
  /-- No text is empty, and no two texts are neighbours. -/
  normal : IsNormal ps
  /-- There is no markup. -/
  plain : ∀ p ∈ ps, p.IsPlain
  /-- No tag begins in a text or in a span. -/
  angle_not_mem : ∀ p ∈ ps, '<' ∉ p.content

theorem isLegible_nil : IsLegible [] where
  normal := ⟨fun _ ht => absurd ht List.not_mem_nil, .nil⟩
  plain := fun _ hp => absurd hp List.not_mem_nil
  angle_not_mem := fun _ hp => absurd hp List.not_mem_nil

theorem isLegible_cons_iff {p : Piece} {ps : List Piece} :
    IsLegible (p :: ps) ↔ IsNormal (p :: ps) ∧ p.IsPlain ∧ '<' ∉ p.content ∧ IsLegible ps := by
  constructor
  · rintro ⟨hnormal, hplain, hangle⟩
    obtain ⟨hp, hps⟩ := List.forall_mem_cons.1 hplain
    obtain ⟨ha, has⟩ := List.forall_mem_cons.1 hangle
    exact ⟨hnormal, hp, ha, (isNormal_cons_iff.1 hnormal).2.2, hps, has⟩
  · rintro ⟨hnormal, hp, ha, hps⟩
    exact ⟨hnormal, List.forall_mem_cons.2 ⟨hp, hps.plain⟩,
      List.forall_mem_cons.2 ⟨ha, hps.angle_not_mem⟩⟩

/-- Markup begins with a tag, if with anything, where the pieces do not begin with a text. -/
theorem head?_renderAll_iff (classPrefix : Text) {ps : List Piece} (h : IsLegible ps) :
    (∀ c ∈ (renderAll classPrefix ps).head?, c = '<') ↔ ∀ p ∈ ps.head?, ¬p.IsText := by
  cases ps with
  | nil => simp
  | cons p ps =>
    obtain ⟨hnormal, hplain, hangle, -⟩ := isLegible_cons_iff.1 h
    cases p with
    | text t =>
      obtain ⟨c, t, rfl⟩ := List.exists_cons_of_ne_nil (hnormal.ne_nil t List.mem_cons_self)
      refine iff_of_false (fun hhead => hangle ?_) fun htext => htext _ rfl trivial
      obtain rfl : c = '<' := hhead c rfl
      exact List.mem_cons_self
    | span k t =>
      refine iff_of_true (fun c hc => ?_) fun q hq => ?_
      · rw [renderAll_cons, render_span] at hc
        exact (Option.some.inj hc).symm
      · obtain rfl : span k t = q := Option.some.inj hq
        exact id
    | markup t => exact hplain.elim

/-- **Legible pieces are read off their markup.** -/
theorem ofMarkup?_renderAll {ps : List Piece} (h : IsLegible ps) :
    ofMarkup? classPrefix (renderAll classPrefix ps) = some ps := by
  induction ps with
  | nil => rw [renderAll_nil, ofMarkup?]
  | cons p ps ih =>
    obtain ⟨hnormal, hplain, hangle, hps⟩ := isLegible_cons_iff.1 h
    obtain ⟨hne, hnext, -⟩ := isNormal_cons_iff.1 hnormal
    rw [renderAll_cons]
    cases p with
    | text x =>
      have hhead : ∀ c ∈ (renderAll classPrefix ps).head?, c = '<' :=
        (head?_renderAll_iff classPrefix hps).2 fun q hq htext => hnext q hq ⟨trivial, htext⟩
      rw [render, ofMarkup?_append (hne x rfl) hangle hhead, ih hps]
      rfl
    | span k x =>
      have hx : '<' ∉ x := hangle
      rw [ofMarkup?_of_spanAt? (spanAt?_render k hx _), ih hps]
      rfl
    | markup x => exact hplain.elim

/-- **What is read is legible**, and the markup is made from it. -/
theorem isLegible_of_ofMarkup? {markup : Text} {ps : List Piece}
    (h : ofMarkup? classPrefix markup = some ps) :
    IsLegible ps ∧ renderAll classPrefix ps = markup := by
  fun_induction ofMarkup? classPrefix markup generalizing ps with
  | case1 =>
    obtain rfl : [] = ps := Option.some.inj h
    exact ⟨isLegible_nil, rfl⟩
  | case2 t p r hspan ih =>
    obtain ⟨qs, hqs, rfl⟩ := Option.map_eq_some_iff.1 h
    obtain ⟨hlegible, rfl⟩ := ih hqs
    obtain ⟨k, x, rfl, hx, htext⟩ := exists_of_spanAt? hspan
    have hnormal : IsNormal (.span k x :: qs) :=
      isNormal_cons_iff.2 ⟨fun _ ht => Piece.noConfusion ht, fun _ _ hq => hq.1, hlegible.normal⟩
    exact ⟨isLegible_cons_iff.2 ⟨hnormal, trivial, hx, hlegible⟩, htext.symm⟩
  | case3 => cases h
  | case4 c t hc ih =>
    obtain ⟨qs, hqs, rfl⟩ := Option.map_eq_some_iff.1 h
    obtain ⟨hlegible, hrender⟩ := ih hqs
    have hhead : ∀ p ∈ qs.head?, ¬p.IsText := by
      rw [← head?_renderAll_iff classPrefix hlegible, hrender]
      intro d hd
      have := List.head?_dropWhile_not (· ≠ '<') t
      rw [hd] at this
      simpa using this
    have hnormal : IsNormal (.text (c :: t.takeWhile (· ≠ '<')) :: qs) :=
      isNormal_cons_iff.2 ⟨fun u hu => Piece.text.inj hu ▸ List.cons_ne_nil _ _,
        fun q hq htext => hhead q hq htext.2, hlegible.normal⟩
    have hangle : '<' ∉ c :: t.takeWhile (· ≠ '<') := fun hmem => by
      rcases List.mem_cons.1 hmem with heq | hmem
      · exact hc heq.symm
      · simpa using List.mem_takeWhile_imp hmem
    refine ⟨isLegible_cons_iff.2 ⟨hnormal, trivial, hangle, hlegible⟩, ?_⟩
    rw [renderAll_cons, hrender, render, List.cons_append, List.takeWhile_append_dropWhile]

/-- **The reader answers for the markup of legible pieces**, with these pieces, and for no other
text. -/
theorem ofMarkup?_eq_some_iff {markup : Text} {ps : List Piece} :
    ofMarkup? classPrefix markup = some ps ↔ IsLegible ps ∧ renderAll classPrefix ps = markup := by
  constructor
  · exact isLegible_of_ofMarkup?
  · rintro ⟨h, rfl⟩
    exact ofMarkup?_renderAll h

/-- **Markup determines the pieces**, whatever stands before the names of classes: no two rows of
legible pieces have the same markup. -/
theorem renderAll_inj {ps qs : List Piece} (hps : IsLegible ps) (hqs : IsLegible qs) :
    renderAll classPrefix ps = renderAll classPrefix qs ↔ ps = qs := by
  constructor
  · intro h
    have hread : ofMarkup? classPrefix (renderAll classPrefix ps) = some qs :=
      ofMarkup?_eq_some_iff.2 ⟨hqs, h.symm⟩
    exact Option.some.inj ((ofMarkup?_renderAll hps).symm.trans hread)
  · rintro rfl
    rfl

/-- The statement about markup for a prefix that looks like the end of a span, and for texts that
look like the ends of tags. -/
theorem renderAll_inj_lookalikes :
    IsLegible [.text "\">".toList, .span .tag "/span>".toList] ∧
      IsLegible [.text "\">".toList, .span .tag [], .text "/span>".toList] ∧
        renderAll "x\"></span>".toList [.text "\">".toList, .span .tag "/span>".toList] ≠
          renderAll "x\"></span>".toList
            [.text "\">".toList, .span .tag [], .text "/span>".toList] := by
  have hps : IsLegible [.text "\">".toList, .span .tag "/span>".toList] := by
    simp [isLegible_cons_iff, isNormal_cons_iff, isLegible_nil, isLegible_nil.normal, IsPlain,
      IsText, content]
  have hqs : IsLegible [.text "\">".toList, .span .tag [], .text "/span>".toList] := by
    simp [isLegible_cons_iff, isNormal_cons_iff, isLegible_nil, isLegible_nil.normal, IsPlain,
      IsText, content]
  exact ⟨hps, hqs, fun h => absurd ((renderAll_inj hps hqs).1 h) (by decide)⟩

end Piece

/-! ### Documents -/

/-- What rules that spell out their matches make of an escaped text is legible. -/
theorem RuleSet.Spells.isLegible_apply {set : RuleSet} (hs : set.Spells) {text : Text}
    (ht : text ≠ []) : Piece.IsLegible (set.apply (escape text)) where
  normal := by
    refine (RuleSet.normalForm_apply set (escape text)).1.2 (.inr fun hnil => ht ?_)
    rw [← unescape_escape text, hnil]
    rfl
  plain := fun p hp => (RuleSet.solid_apply hs _ p hp).isPlain
  angle_not_mem := fun p hp hc => (hs.ne_angle hp hc).1 rfl

/-- **The pieces of a document can be read off the markup** that is given for it, with its spans
collapsed or not. -/
theorem Highlighter.ofMarkup?_render {settings : Settings} {set : RuleSet} {text : Text}
    (hP : Piece.IsPrefix settings.classPrefix.toList) (hs : set.Spells) (ht : text ≠ []) :
    Piece.ofMarkup? settings.classPrefix.toList (render settings set text) =
      some (set.apply (escape text)) := by
  rw [render_eq hP hs]
  exact Piece.ofMarkup?_renderAll (hs.isLegible_apply ht)

end CodeMarkup
