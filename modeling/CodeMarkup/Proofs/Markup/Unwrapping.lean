import CodeMarkup.Proofs.Markup.NestedSpans
import Mathlib.Logic.Relation

/-!
# Unwrapping until nothing wraps

Collapsing goes over the whole text until a pass finds nothing more. Here it is taken apart into
steps (`CodeMarkup.Markup.Unwraps`): one span that wraps a span of text gives way to the span inside,
somewhere in the text. A pass is a number of such steps, and at least one if the pattern occurs at
all (`CodeMarkup.Markup.transGen_collapseOnce`), since a place that the search has passed over does
not take part in a match that comes later.

**Every step leaves out at least 22 characters**, which are those of the two tags without a class
(`CodeMarkup.Markup.Unwraps.length_add_le`). This is all that makes the loop end: nothing else gets
smaller on a text that is not well formed, where a step can even make a match that has not been
there before. So a text of `n` characters is gone over at most `n / 22` times before a pass finds
nothing, and then collapsing again changes nothing
(`CodeMarkup.Markup.collapse_reaches_fixpoint`).
-/

namespace CodeMarkup.Markup

open Relation

variable {s t u : Text}

/-! ### One step -/

/-- **One span less**: a span that wraps a span of text, somewhere in the text, gives way to the
span inside. -/
def Unwraps (t u : Text) : Prop :=
  ∃ a outer inner b, Nested outer inner ∧ t = a ++ (outer ++ b) ∧ u = a ++ (inner ++ b)

/-- Any number of spans less, in any order. -/
abbrev UnwrapsTo : Text → Text → Prop := ReflTransGen Unwraps

/-- There is a step where the pattern occurs. -/
theorem exists_unwraps_iff : (∃ u, Unwraps t u) ↔ nestedExpr.OccursIn t := by
  constructor
  · rintro ⟨_, a, outer, inner, b, h, rfl, -⟩
    exact ⟨a, outer, b, takes_nested_iff.2 ⟨inner, h⟩, rfl⟩
  · rintro ⟨a, outer, b, h, rfl⟩
    obtain ⟨inner, h⟩ := takes_nested_iff.1 h
    exact ⟨_, a, outer, inner, b, h, rfl, rfl⟩

theorem Unwraps.append_left (h : Unwraps t u) (x : Text) : Unwraps (x ++ t) (x ++ u) := by
  obtain ⟨a, outer, inner, b, h, rfl, rfl⟩ := h
  exact ⟨x ++ a, outer, inner, b, h, by simp, by simp⟩

theorem transGen_append_left (h : TransGen Unwraps t u) (x : Text) :
    TransGen Unwraps (x ++ t) (x ++ u) :=
  h.lift (x ++ ·) fun _ _ h => h.append_left x

theorem UnwrapsTo.append_left (h : UnwrapsTo t u) (x : Text) : UnwrapsTo (x ++ t) (x ++ u) :=
  h.lift (x ++ ·) fun _ _ h => h.append_left x

theorem Nested.length_add_le {outer inner : Text} (h : Nested outer inner) :
    inner.length + 22 ≤ outer.length := by
  obtain @⟨v, w, x, -, -, -⟩ := h
  have hopen : spanOpen.length = 13 := rfl
  have hmid : spanMid.length = 2 := rfl
  have hclose : spanClose.length = 7 := rfl
  simp only [spanTag, List.length_append, hopen, hmid, hclose]
  omega

/-- **A step leaves out at least 22 characters.** -/
theorem Unwraps.length_add_le (h : Unwraps t u) : u.length + 22 ≤ t.length := by
  obtain ⟨a, outer, inner, b, h, rfl, rfl⟩ := h
  have := h.length_add_le
  simp only [List.length_append]
  omega

theorem length_add_le_of_transGen (h : TransGen Unwraps t u) : u.length + 22 ≤ t.length := by
  induction h with
  | single h => exact h.length_add_le
  | tail _ h ih =>
    have := h.length_add_le
    omega

/-! ### A pass -/

/-- A text without the pattern stays as it is, whatever the steps are. -/
theorem UnwrapsTo.eq_of_not_occursIn (h : UnwrapsTo t u) (ht : ¬nestedExpr.OccursIn t) : u = t := by
  rcases h.cases_head with rfl | ⟨v, hstep, -⟩
  · rfl
  · exact absurd (exists_unwraps_iff.1 ⟨v, hstep⟩) ht

/-- **A pass takes steps**, and at least one of them if the pattern occurs. -/
theorem steps_collapseFrom (t : Text) :
    UnwrapsTo t (collapseFrom 0 t) ∧
      (nestedExpr.OccursIn t → TransGen Unwraps t (collapseFrom 0 t)) := by
  induction t using pass_induction with
  | nil =>
    refine ⟨.refl, fun h => ?_⟩
    obtain ⟨u, hu⟩ := exists_unwraps_iff.2 h
    have := hu.length_add_le
    simp at this
  | hit outer inner rest hnested hpass ih =>
    have hstep : Unwraps (outer ++ rest) (inner ++ rest) :=
      ⟨[], outer, inner, rest, hnested, rfl, rfl⟩
    have htrans : TransGen Unwraps (outer ++ rest) (collapseFrom 0 (outer ++ rest)) := by
      rw [hpass]
      exact .head' hstep (ih.1.append_left inner)
    exact ⟨htrans.to_reflTransGen, fun _ => htrans⟩
  | skip c t hw hpass ih =>
    obtain ⟨hsteps, hoccurs⟩ := ih
    rw [hpass]
    refine ⟨hsteps.append_left [c], ?_⟩
    rintro ⟨a, outer, b, hx, ht⟩
    cases a with
    | nil =>
      -- The pattern does not occur at the place, since nothing is found there.
      obtain ⟨inner, hnested⟩ := takes_nested_iff.1 hx
      rw [ht, List.nil_append, wrapped?_of_nested hnested] at hw
      cases hw
    | cons d a =>
      obtain ⟨rfl, rfl⟩ := List.cons.inj ht
      exact transGen_append_left (hoccurs ⟨a, outer, b, hx, rfl⟩) [c]

theorem unwrapsTo_collapseOnce (t : Text) : UnwrapsTo t (collapseOnce t) := (steps_collapseFrom t).1

theorem transGen_collapseOnce (h : nestedExpr.OccursIn t) : TransGen Unwraps t (collapseOnce t) :=
  (steps_collapseFrom t).2 h

/-- **A pass changes a text if and only if the pattern occurs in it.** -/
theorem collapseOnce_eq_self_iff : collapseOnce t = t ↔ ¬nestedExpr.OccursIn t := by
  constructor
  · intro heq h
    have := length_add_le_of_transGen (transGen_collapseOnce h)
    rw [heq] at this
    omega
  · exact (unwrapsTo_collapseOnce t).eq_of_not_occursIn

/-! ### The loop -/

/-- **The loop of passes**: a text in which the pattern does not occur is the result, and otherwise
each match is replaced by the span inside, and the loop goes on with what comes of it. The number
is that of the passes which replace something. -/
inductive Passes : Nat → Text → Text → Prop where
  /-- The pattern does not occur. -/
  | stop {t : Text} (h : ¬nestedExpr.OccursIn t) : Passes 0 t t
  /-- The pattern occurs, and there is one more pass. -/
  | pass {n : Nat} {t u : Text} (h : nestedExpr.OccursIn t)
      (hu : Passes n (nestedSpan.replaceBy 1 t) u) : Passes (n + 1) t u

theorem Passes.not_occursIn {n : Nat} (h : Passes n t u) : ¬nestedExpr.OccursIn u := by
  induction h with
  | stop h => exact h
  | pass _ _ ih => exact ih

theorem Passes.unwrapsTo {n : Nat} (h : Passes n t u) : UnwrapsTo t u := by
  induction h with
  | stop => exact .refl
  | @pass _ t _ _ _ ih =>
    rw [← collapseOnce_eq_replaceBy] at ih
    exact (unwrapsTo_collapseOnce t).trans ih

/-- If there may be one pass for each 22 characters, the passes that are made are those of the
loop. -/
theorem exists_passes_collapseUpTo {n : Nat} (hn : t.length ≤ 22 * n) :
    ∃ m, 22 * m ≤ t.length ∧ Passes m t (collapseUpTo n t) := by
  induction n generalizing t with
  | zero =>
    obtain rfl : t = [] := List.eq_nil_of_length_eq_zero (by omega)
    exact ⟨0, by simp, .stop (collapseOnce_eq_self_iff.1 rfl)⟩
  | succ n ih =>
    by_cases h : nestedExpr.OccursIn t
    · have hne : collapseOnce t ≠ t := fun heq => collapseOnce_eq_self_iff.1 heq h
      have hlen := length_add_le_of_transGen (transGen_collapseOnce h)
      obtain ⟨m, hm, hpasses⟩ := ih (t := collapseOnce t) (by omega)
      refine ⟨m + 1, by omega, .pass h ?_⟩
      rw [← collapseOnce_eq_replaceBy]
      simpa [collapseUpTo, hne] using hpasses
    · have heq := collapseOnce_eq_self_iff.2 h
      refine ⟨0, by omega, ?_⟩
      simpa [collapseUpTo, heq] using Passes.stop h

theorem exists_passes_collapse (t : Text) : ∃ m, 22 * m ≤ t.length ∧ Passes m t (collapse t) :=
  exists_passes_collapseUpTo (by omega)

theorem not_occursIn_collapse (t : Text) : ¬nestedExpr.OccursIn (collapse t) := by
  obtain ⟨_, -, h⟩ := exists_passes_collapse t
  exact h.not_occursIn

theorem unwrapsTo_collapse (t : Text) : UnwrapsTo t (collapse t) := by
  obtain ⟨_, -, h⟩ := exists_passes_collapse t
  exact h.unwrapsTo

/-- **Collapsing comes to an end on every text**, well formed or not: the loop of passes ends after
no more passes than there are 22 characters in the text, the pattern does not occur in what comes
of it, and collapsing this again changes nothing. -/
theorem collapse_reaches_fixpoint (s : Text) :
    (∃ n ≤ s.length / 22, Passes n s (collapse s)) ∧ ¬nestedExpr.OccursIn (collapse s) ∧
      collapse (collapse s) = collapse s := by
  obtain ⟨n, hn, hpasses⟩ := exists_passes_collapse s
  have hnone := not_occursIn_collapse s
  refine ⟨⟨n, ?_, hpasses⟩, hnone, collapse_eq_self (collapseOnce_eq_self_iff.2 hnone)⟩
  omega

end CodeMarkup.Markup
