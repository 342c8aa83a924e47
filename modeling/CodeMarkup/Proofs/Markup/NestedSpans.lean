import CodeMarkup.Proofs.Language.Patterns
import CodeMarkup.Proofs.Markup.Tagged
import CodeMarkup.Proofs.Regex.Complete

/-!
# The pattern of nested spans

What collapsing looks for is a pattern (`CodeMarkup.Markup.nestedSpan`), and a pass over a text is
the replacement of each match by what the group in it takes. The pass that is run has no pattern in
it, it tells a match by the tags at a place (`CodeMarkup.Markup.wrapped?`); here the two are shown
to be the same, on every text (`CodeMarkup.Markup.collapseOnce_eq_replaceBy`).

The matches are the spans that wrap a span of text and nothing else, and this is read off the
pattern (`CodeMarkup.Markup.takes_nested_iff`). **At one place there is no choice between them**:
the class of a tag ends at the first quote and a text at the first angle bracket, so the eager
repetitions of the pattern can stop in one way only. Therefore it does not matter which of its ways
the search prefers, and the pass finds a match where the search does
(`CodeMarkup.Markup.matchAt?_nested`).
-/

namespace CodeMarkup

namespace Regex

/-- What stands for a segment if group `i` takes the place of each match. -/
def Segment.replaced (i : Nat) : Segment → Text
  | gap t => t
  | hit r => (r.group? i).getD []

/-- The text with each match of the pattern replaced by what group `i` takes in it. -/
def replaceBy (re : Regex) (i : Nat) (t : Text) : Text :=
  (re.segments t).flatMap (Segment.replaced i)

theorem Segment.flatMap_replaced_consGap (i : Nat) (c : Char) (ss : List Segment) :
    (consGap c ss).flatMap (replaced i) = c :: ss.flatMap (replaced i) := by
  rcases ss with _ | ⟨t | r, ss⟩ <;> rfl

namespace Expr

/-- That an expression takes a part of a text. -/
def OccursIn (e : Expr) (t : Text) : Prop := ∃ u x v, e.Takes x ∧ t = u ++ (x ++ v)

theorem OccursIn.append {e : Expr} {t : Text} (h : e.OccursIn t) (a b : Text) :
    e.OccursIn (a ++ (t ++ b)) := by
  obtain ⟨u, x, v, hx, rfl⟩ := h
  exact ⟨a ++ u, x, v ++ b, hx, by simp⟩

end Expr

end Regex

namespace Markup

open Regex CodeMarkup.Language

/-! ### The pattern -/

/-- The expressions of the characters of a word. -/
def letters (w : Text) : List Expr := w.map char

/-- The factors of an opening tag. -/
def openingFactors : List Expr := letters spanOpen ++ ([many (noneOf ['"'])] ++ letters spanMid)

/-- The factors of a span that holds text only. -/
def spanFactors : List Expr := openingFactors ++ ([many (noneOf ['<'])] ++ letters spanClose)

/-- A span that wraps a span of text; the span inside is group 1. -/
def nestedExpr : Expr :=
  seq (openingFactors ++ ([.group 1 (seq spanFactors)] ++ letters spanClose))

/-- The pattern of nested spans. -/
def nestedSource : String := r#"<span class="[^"]*">(<span class="[^"]*">[^<]*</span>)</span>"#

set_option maxRecDepth 2000 in
theorem writtenAs_nested : WrittenAs nestedSource nestedExpr := by rfl

/-- The pattern of nested spans, with its expression. -/
def nestedSpan : Regex := pattern nestedSource nestedExpr

/-! ### What the pattern takes -/

theorem takes_letters {w x : Text} : (seq (letters w)).Takes x ↔ x = w := by
  induction w generalizing x with
  | nil => exact Expr.takes_empty
  | cons c w ih =>
    have hcons : letters (c :: w) = [char c] ++ letters w := rfl
    rw [seq, hcons, Expr.takes_ofFactors_append]
    constructor
    · rintro ⟨y, z, hy, hz, rfl⟩
      rw [takes_char hy, ih.1 hz]
      rfl
    · rintro rfl
      exact ⟨[c], w, Expr.takes_one.2 ⟨c, CharSet.contains_single.2 rfl, rfl⟩, ih.2 rfl, rfl⟩

theorem takes_many_noneOf {c : Char} {x : Text} : (many (noneOf [c])).Takes x ↔ c ∉ x := by
  rw [noneOf, takes_many_one]
  simp only [CharSet.contains_compl_ofList]
  constructor
  · intro h hc
    simpa using h c hc
  · intro h d hd
    have hne : d ≠ c := fun heq => h (heq ▸ hd)
    simpa using hne

/-- What is taken in a row: a text, what a factor takes, and a word. -/
theorem takes_between {as : List Expr} {e : Expr} {w x : Text} :
    (seq (as ++ ([e] ++ letters w))).Takes x ↔
      ∃ y z, (seq as).Takes y ∧ e.Takes z ∧ x = y ++ (z ++ w) := by
  rw [seq, Expr.takes_ofFactors_append]
  constructor
  · rintro ⟨y, u, hy, hu, rfl⟩
    obtain ⟨z, v, hz, hv, rfl⟩ := Expr.takes_ofFactors_append.1 hu
    obtain rfl := takes_letters.1 hv
    exact ⟨y, z, hy, hz, rfl⟩
  · rintro ⟨y, z, hy, hz, rfl⟩
    exact ⟨y, z ++ w, hy, Expr.takes_ofFactors_append.2 ⟨z, w, hz, takes_letters.2 rfl, rfl⟩, rfl⟩

theorem takes_opening {x : Text} :
    (seq openingFactors).Takes x ↔ ∃ v, '"' ∉ v ∧ x = spanTag v := by
  rw [openingFactors, takes_between]
  constructor
  · rintro ⟨y, v, hy, hv, rfl⟩
    obtain rfl := takes_letters.1 hy
    exact ⟨v, takes_many_noneOf.1 hv, (List.append_assoc ..).symm⟩
  · rintro ⟨v, hv, rfl⟩
    exact ⟨spanOpen, v, takes_letters.2 rfl, takes_many_noneOf.2 hv, List.append_assoc ..⟩

/-- **A span that wraps a span of text**, and the span inside. -/
inductive Nested : Text → Text → Prop where
  /-- An opening tag, the span inside, and a closing tag. -/
  | mk {v w x : Text} (hv : '"' ∉ v) (hw : '"' ∉ w) (hx : '<' ∉ x) :
      Nested (spanTag v ++ (spanTag w ++ (x ++ spanClose) ++ spanClose))
        (spanTag w ++ (x ++ spanClose))

theorem takes_span {x : Text} :
    (seq spanFactors).Takes x ↔
      ∃ w y, '"' ∉ w ∧ '<' ∉ y ∧ x = spanTag w ++ (y ++ spanClose) := by
  rw [spanFactors, takes_between]
  constructor
  · rintro ⟨u, y, hu, hy, rfl⟩
    obtain ⟨w, hw, rfl⟩ := takes_opening.1 hu
    exact ⟨w, y, hw, takes_many_noneOf.1 hy, rfl⟩
  · rintro ⟨w, y, hw, hy, rfl⟩
    exact ⟨spanTag w, y, takes_opening.2 ⟨w, hw, rfl⟩, takes_many_noneOf.2 hy, rfl⟩

/-- **The texts that the pattern takes** are the spans that wrap a span of text. -/
theorem takes_nested_iff {x : Text} : nestedExpr.Takes x ↔ ∃ inner, Nested x inner := by
  rw [nestedExpr, takes_between]
  constructor
  · rintro ⟨u, y, hu, hy, rfl⟩
    obtain ⟨v, hv, rfl⟩ := takes_opening.1 hu
    obtain ⟨w, z, hw, hz, rfl⟩ := takes_span.1 (Expr.takes_group.1 hy)
    exact ⟨_, .mk hv hw hz⟩
  · rintro ⟨_, hv, hw, hx⟩
    exact ⟨_, _, takes_opening.2 ⟨_, hv, rfl⟩,
      Expr.takes_group.2 (takes_span.2 ⟨_, _, hw, hx, rfl⟩), rfl⟩

/-- **The run of a match**: the group takes the span inside. -/
theorem run_nested {r : Run} (h : nestedExpr.Extends .nil r) :
    ∃ outer inner, Nested outer inner ∧ r = ⟨outer, [], [⟨1, inner, spanClose⟩]⟩ := by
  obtain ⟨s, hs, hopen⟩ := Expr.extends_ofFactors_append.1 h
  obtain ⟨s', hclose, hgroup⟩ := Expr.extends_ofFactors_append.1 hs
  obtain ⟨c, hc, rfl⟩ := hclose.flat fun _ => ⟨rfl, rfl⟩
  obtain ⟨inner, hinner, rfl⟩ := hgroup.group (fun _ => ⟨rfl, rfl⟩) rfl (by simp [Run.nil])
  obtain ⟨tag, htag, rfl⟩ := hopen.flat fun _ => ⟨rfl, rfl⟩
  obtain rfl := takes_letters.1 hc
  obtain ⟨v, hv, rfl⟩ := takes_opening.1 htag
  obtain ⟨w, x, hw, hx, rfl⟩ := takes_span.1 hinner
  exact ⟨_, _, .mk hv hw hx, by simp [Run.nil]⟩

/-! ### What the search finds -/

theorem afterOpenTag?_spanTag {v : Text} (hv : '"' ∉ v) (t : Text) :
    afterOpenTag? (spanTag v ++ t) = some t := by
  have hquote : ∀ c ∈ v, decide (c ≠ '"') = true := by
    rintro c hc
    have hne : c ≠ '"' := fun heq => hv (heq ▸ hc)
    simpa using hne
  have hmid : (v ++ (spanMid ++ t)).dropWhile (· ≠ '"') = spanMid ++ t := by
    rw [List.dropWhile_append_of_pos hquote, spanMid_eq]
    rfl
  rw [spanTag, List.append_assoc, List.append_assoc, afterOpenTag?, afterStart?_append,
    Option.bind_some, hmid, afterStart?_append]

theorem afterPlainSpan?_span {w x : Text} (hw : '"' ∉ w) (hx : '<' ∉ x) (t : Text) :
    afterPlainSpan? (spanTag w ++ (x ++ (spanClose ++ t))) = some t := by
  have hangle : ∀ c ∈ x, decide (c ≠ '<') = true := by
    rintro c hc
    have hne : c ≠ '<' := fun heq => hx (heq ▸ hc)
    simpa using hne
  have hclose : (x ++ (spanClose ++ t)).dropWhile (· ≠ '<') = spanClose ++ t := by
    rw [List.dropWhile_append_of_pos hangle, spanClose_eq]
    rfl
  rw [afterPlainSpan?, afterOpenTag?_spanTag hw, Option.bind_some, hclose, afterStart?_append]

/-- **A span that wraps a span of text is found** where it stands, whatever comes behind it. -/
theorem wrapped?_of_nested {outer inner : Text} (h : Nested outer inner) (t : Text) :
    wrapped? (outer ++ t) = some (inner, outer.length) := by
  obtain @⟨v, w, x, hv, hw, hx⟩ := h
  have hassoc : spanTag v ++ (spanTag w ++ (x ++ spanClose) ++ spanClose) ++ t =
      spanTag v ++ (spanTag w ++ (x ++ (spanClose ++ (spanClose ++ t)))) := by simp
  rw [hassoc, wrapped?]
  simp only [afterOpenTag?_spanTag hv, afterPlainSpan?_span hw hx, afterStart?_append,
    Option.bind_eq_bind, Option.bind_some, Option.pure_def, Option.some.injEq, Prod.mk.injEq]
  constructor
  · have hlen : (spanTag w ++ (x ++ (spanClose ++ (spanClose ++ t)))).length -
        (spanClose ++ t).length = (spanTag w ++ (x ++ spanClose)).length := by
      simp only [List.length_append]
      omega
    have hsplit : spanTag w ++ (x ++ (spanClose ++ (spanClose ++ t))) =
        (spanTag w ++ (x ++ spanClose)) ++ (spanClose ++ t) := by simp
    rw [hlen, hsplit, List.take_left]
  · simp only [List.length_append]
    omega

/-- **What is found at a place** is a span that wraps a span of text, and begins there. -/
theorem wrapped?_eq_some_iff {t inner : Text} {n : Nat} :
    wrapped? t = some (inner, n) ↔
      ∃ outer rest, Nested outer inner ∧ t = outer ++ rest ∧ n = outer.length := by
  constructor
  · intro h
    obtain ⟨v, w, x, rest, hv, hw, hx, rfl, rfl, rfl⟩ := exists_of_wrapped? h
    exact ⟨_, rest, by simpa using Nested.mk hv hw hx, rfl, rfl⟩
  · rintro ⟨outer, rest, h, rfl, rfl⟩
    exact wrapped?_of_nested h rest

/-- **The best match of the pattern is what is found**, with the span inside as group 1. -/
theorem matchAt?_nested (prev : Option Char) (t : Text) :
    nestedExpr.toMarked.matchAt? prev t =
      (wrapped? t).map fun s => ⟨t.take s.2, [], [⟨1, s.1, spanClose⟩]⟩ := by
  cases hm : nestedExpr.toMarked.matchAt? prev t with
  | some r =>
    obtain ⟨outer, inner, hnested, rfl⟩ := run_nested (Expr.extends_of_matchAt? hm)
    obtain ⟨rest, rfl⟩ := (Marked.reads_matchAt? hm).exists_append
    rw [wrapped?_of_nested hnested, Option.map_some, List.take_left]
  | none =>
    cases hw : wrapped? t with
    | none => rfl
    | some found =>
      obtain ⟨inner, n⟩ := found
      obtain ⟨outer, rest, hnested, rfl, -⟩ := wrapped?_eq_some_iff.1 hw
      -- What the pattern takes is matched where it stands.
      obtain ⟨r, hr, -⟩ := (takes_nested_iff.2 ⟨inner, hnested⟩).exists_matchAt? (by rfl)
        (fun _ => rfl) (by rfl) prev rest
      rw [hm] at hr
      cases hr

/-! ### A pass -/

theorem Nested.ne_nil {outer inner : Text} (h : Nested outer inner) : outer ≠ [] :=
  (takes_nested_iff.2 ⟨inner, h⟩).ne_nil (by rfl)

/-- **Induction along a pass**: behind a match it goes on with what is behind the match, which is
shorter, and else with the tail. -/
theorem pass_induction {motive : Text → Prop} (nil : motive [])
    (hit : ∀ outer inner rest, Nested outer inner →
      collapseFrom 0 (outer ++ rest) = inner ++ collapseFrom 0 rest → motive rest →
      motive (outer ++ rest))
    (skip : ∀ c t, wrapped? (c :: t) = none → collapseFrom 0 (c :: t) = c :: collapseFrom 0 t →
      motive t → motive (c :: t))
    (t : Text) : motive t := by
  induction hn : t.length using Nat.strongRecOn generalizing t with
  | _ n ih =>
    cases hw : wrapped? t with
    | some found =>
      obtain ⟨inner, m⟩ := found
      obtain ⟨outer, rest, hnested, rfl, rfl⟩ := wrapped?_eq_some_iff.1 hw
      have hlt : rest.length < n := by
        have := List.length_pos_of_ne_nil hnested.ne_nil
        rw [List.length_append] at hn
        omega
      exact hit outer inner rest hnested (collapseFrom_of_wrapped? hnested.ne_nil hw)
        (ih rest.length hlt rest rfl)
    | none =>
      cases t with
      | nil => exact nil
      | cons c t =>
        exact skip c t hw (by rw [collapseFrom, hw]) (ih t.length (by simp [← hn]) t rfl)

theorem collapseFrom_eq_flatMap (prev : Option Char) (t : Text) :
    collapseFrom 0 t =
      (nestedExpr.toMarked.segmentsFrom prev t).flatMap (Segment.replaced 1) := by
  induction t using pass_induction generalizing prev with
  | nil => rfl
  | hit outer inner rest hnested hpass ih =>
    have hm : nestedExpr.toMarked.matchAt? prev (outer ++ rest) =
        some ⟨outer, [], [⟨1, inner, spanClose⟩]⟩ := by
      rw [matchAt?_nested, wrapped?_of_nested hnested, Option.map_some, List.take_left]
    have hsegments : nestedExpr.toMarked.segmentsFrom prev (outer ++ rest) =
        .hit ⟨outer, [], [⟨1, inner, spanClose⟩]⟩ ::
          nestedExpr.toMarked.segmentsFrom outer.getLast? rest :=
      Marked.segmentsFrom_hit (r := ⟨outer, [], [⟨1, inner, spanClose⟩]⟩) hm hnested.ne_nil
    rw [hpass, ih outer.getLast?, hsegments]
    rfl
  | skip c t hw hpass ih =>
    have hm : nestedExpr.toMarked.matchAt? prev (c :: t) = none := by
      rw [matchAt?_nested, hw, Option.map_none]
    rw [hpass, Marked.segmentsFrom_cons (by simp [hm]), Segment.flatMap_replaced_consGap,
      ← ih (some c)]

/-- **A pass replaces each match of the pattern by the span inside.** -/
theorem collapseOnce_eq_replaceBy (t : Text) : collapseOnce t = nestedSpan.replaceBy 1 t :=
  collapseFrom_eq_flatMap none t

end Markup

end CodeMarkup
