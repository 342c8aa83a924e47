import CodeMarkup.Regex.Segment
import Mathlib.Computability.Language

/-!
# The ways through an expression

What an expression matches is told here without marks, stations or preference. A
*way* through an expression (`CodeMarkup.Regex.Way`) is a word over the steps that
one can take: a character, an assertion, the start and the end of a group. The ways
through an expression form a language in the usual sense
(`CodeMarkup.Regex.Marked.ways`), built with union, product and Kleene star, and a
way can be gone from a place of a text or not (`CodeMarkup.Regex.Way.Leads`).

The one-pass search is sound for this reading: **a run that is found at a place is the
run of a way that leads from there** (`CodeMarkup.Regex.Marked.reads_matchAt?`). The
converse fails, since only the best run is found.

The proof keeps one invariant of the marks (`CodeMarkup.Regex.Marked.Sound`): what
stands at a character set is a run from behind it, along the rest of the expression
and whatever follows the expression. What follows is a language too, so the
invariant is stated for any language `K`, and each constructor puts its own
continuation in front of `K`, the same one that the search hands down.
-/

namespace CodeMarkup.Regex

open Computability

/-! ### Ways -/

/-- One step of a way through an expression. -/
inductive Step where
  /-- Takes a character. -/
  | take (c : Char)
  /-- Passes an assertion. -/
  | look (a : Look)
  /-- Passes the start of a group. -/
  | opens (i : Nat)
  /-- Passes the end of a group. -/
  | closes (i : Nat)
  deriving DecidableEq

/-- The steps taken from one point of an expression to another. -/
abbrev Way := List Step

/-- A run with one step more before it. -/
def Step.before : Step → Run → Run
  | take c, r => r.push c
  | look _, r => r
  | opens i, r => r.closeGroup i
  | closes i, r => r.openGroup i

namespace Way

/-- A run with a way before it. -/
def before (w : Way) (r : Run) : Run := w.foldr Step.before r

/-- The run of a way. -/
def run (w : Way) : Run := w.before .nil

/-- The characters that are taken on a way. -/
def chars : Way → Text
  | [] => []
  | .take c :: w => c :: chars w
  | _ :: w => chars w

/-- That a way can be gone from a place on: `t` is the text behind the place, `prev` the
character before it. -/
def Leads : Way → Option Char → Text → Prop
  | [], _, _ => True
  | .take c :: w, _, t => ∃ t', t = c :: t' ∧ Leads w (some c) t'
  | .look a :: w, prev, t => a.holds ⟨prev, t.head?⟩ ∧ Leads w prev t
  | _ :: w, prev, t => Leads w prev t

@[simp] theorem before_nil (r : Run) : before [] r = r := rfl

@[simp] theorem before_cons (s : Step) (w : Way) (r : Run) :
    before (s :: w) r = s.before (before w r) := rfl

@[simp] theorem before_append (v w : Way) (r : Run) :
    before (v ++ w) r = before v (before w r) := by
  simp [before]

@[simp] theorem chars_append (v w : Way) : chars (v ++ w) = chars v ++ chars w := by
  induction v with
  | nil => rfl
  | cons s v ih => cases s <;> simp [chars, ih]

theorem taken_before (w : Way) (r : Run) : (before w r).taken = chars w ++ r.taken := by
  induction w with
  | nil => rfl
  | cons s w ih => cases s <;> simp [Step.before, chars, ih]

@[simp] theorem taken_run (w : Way) : w.run.taken = w.chars := by
  simp [run, taken_before, Run.nil]

/-- What is taken on a way begins the text behind the place. -/
theorem Leads.exists_append {w : Way} {prev : Option Char} {t : Text} (h : w.Leads prev t) :
    ∃ t', t = w.chars ++ t' := by
  induction w generalizing prev t with
  | nil => exact ⟨t, rfl⟩
  | cons s w ih =>
    cases s with
    | take c =>
      obtain ⟨t', rfl, h⟩ := h
      obtain ⟨u, rfl⟩ := ih h
      exact ⟨u, rfl⟩
    | look a => exact ih h.2
    | opens i => exact ih h
    | closes i => exact ih h

end Way

/-- That `r` is the run of a way of the language `L` which leads from a place on. -/
def Reads (L : Language Step) (prev : Option Char) (t : Text) (r : Run) : Prop :=
  ∃ w ∈ L, Way.Leads w prev t ∧ Way.run w = r

theorem Reads.mono {L K : Language Step} (h : ∀ w ∈ L, w ∈ K) {prev : Option Char} {t : Text} {r : Run}
    (hr : Reads L prev t r) : Reads K prev t r := by
  obtain ⟨w, hw, hl, rfl⟩ := hr
  exact ⟨w, h w hw, hl, rfl⟩

/-- The text that a run takes begins the text behind the place. -/
theorem Reads.exists_append {L : Language Step} {prev : Option Char} {t : Text} {r : Run}
    (h : Reads L prev t r) : ∃ t', t = r.taken ++ t' := by
  obtain ⟨w, -, hl, rfl⟩ := h
  simpa using hl.exists_append

/-- That an attempt at a place finds runs of ways of the language `L` only. -/
def Attempt.Within (L : Language Step) (prev : Option Char) (t : Text) (a : Attempt) : Prop :=
  ∀ passed r, (a passed).run? = some r → Reads L prev t r

namespace Attempt

variable {L K : Language Step} {prev : Option Char} {t : Text} {a b : Attempt}

theorem Within.mono (h : ∀ w ∈ L, w ∈ K) (ha : a.Within L prev t) : a.Within K prev t :=
  fun passed r hr => (ha passed r hr).mono h

theorem within_fail : fail.Within L prev t := fun _ _ h => by cases h

theorem within_arrive : arrive.Within 1 prev t := by
  intro passed r h
  obtain rfl : Run.nil = r := by simpa [arrive] using h
  exact ⟨[], rfl, trivial, rfl⟩

theorem Within.station (ha : a.Within L prev t) (l : Nat) : (station l a).Within L prev t := by
  intro passed r h
  unfold Attempt.station at h
  split at h
  · cases h
  · exact ha _ _ h

theorem Within.or (ha : a.Within L prev t) (hb : b.Within L prev t) :
    (a.or b).Within L prev t := by
  intro passed r h
  unfold Attempt.or at h
  cases hp : a passed with
  | found r' => exact ha passed r (by rw [hp] at h ⊢; exact h)
  | failed passed' => exact hb passed' r (by rw [hp] at h; exact h)

/-- Passing the start or the end of a group puts the step before each way. -/
theorem Within.map {s : Step} (hs : ∀ w prev t, Way.Leads w prev t → Way.Leads (s :: w) prev t)
    (ha : a.Within L prev t) : (a.map s.before).Within ({[s]} * L) prev t := by
  intro passed r h
  unfold Attempt.map at h
  rw [Outcome.run?_map] at h
  obtain ⟨r', hr', rfl⟩ := Option.map_eq_some_iff.1 h
  obtain ⟨w, hw, hl, rfl⟩ := ha passed r' hr'
  exact ⟨s :: w, ⟨[s], rfl, w, hw, rfl⟩, hs w prev t hl, rfl⟩

end Attempt

/-! ### The language of an expression -/

namespace Marked

/-- The ways through an expression, whatever its marks. -/
def ways : Marked → Language Step
  | empty => 1
  | look a => {[.look a]}
  | one s _ => {w | ∃ c, s.contains c ∧ w = [.take c]}
  | cat a b => a.ways * b.ways
  | alt a b => a.ways + b.ways
  | group i a => {[.opens i]} * (a.ways * {[.closes i]})
  | enter _ a => a.ways
  | join _ a => a.ways
  | plus _ a => a.ways * a.ways∗

@[simp] theorem ways_remark (p : Place) (m : Marked) (rest : Attempt) :
    (m.remark p rest).ways = m.ways := by
  induction m generalizing rest with
  | empty | look | one => rfl
  | cat a b iha ihb => simp [remark, ways, iha, ihb]
  | alt a b iha ihb => simp [remark, ways, iha, ihb]
  | group i a ih => simp [remark, ways, ih]
  | enter l a ih => simp [remark, ways, ih]
  | join l a ih => simp [remark, ways, ih]
  | plus greedy a ih => simp [remark, ways, ih]

/-! ### The invariant of the marks -/

/-- That the marks of an expression are runs from the place behind its sets on, where
the language `K` follows the expression. -/
def Sound (K : Language Step) (prev : Option Char) (t : Text) : Marked → Prop
  | one _ mark => ∀ r, mark = some r → Reads K prev t r
  | cat a b => a.Sound (b.ways * K) prev t ∧ b.Sound K prev t
  | alt a b => a.Sound K prev t ∧ b.Sound K prev t
  | group i a => a.Sound ({[.closes i]} * K) prev t
  | enter _ a => a.Sound K prev t
  | join _ a => a.Sound K prev t
  | plus _ a => a.Sound (a.ways∗ * K) prev t
  | _ => True

variable {K : Language Step} {prev : Option Char} {t : Text} {rest : Attempt}

/-- What follows a round of a repetition takes rounds and then goes on. -/
theorem within_again {L : Language Step} (greedy : Bool) {round : Attempt}
    (hround : round.Within (L * (L∗ * K)) prev t) (hrest : rest.Within K prev t) :
    (again greedy round rest).Within (L∗ * K) prev t := by
  have hmore : L * (L∗ * K) ≤ L∗ * K := by
    rw [← mul_assoc]
    exact mul_le_mul_left (mul_kstar_le_kstar (a := L)) K
  have hdone : K ≤ L∗ * K := by
    calc K = 1 * K := (one_mul K).symm
      _ ≤ L∗ * K := mul_le_mul_left (one_le_kstar (a := L)) K
  have hr : round.Within (L∗ * K) prev t := hround.mono fun _ hw => hmore hw
  have hn : rest.Within (L∗ * K) prev t := hrest.mono fun _ hw => hdone hw
  unfold again
  split
  · exact hr.or hn
  · exact hn.or hr

/-- **Trying the ways at one place**: with sound marks for the place behind the next
character, and sound attempts behind the expression, what is found goes through the
expression and on from there. -/
theorem within_best (m : Marked) (hm : ∀ c t', t = c :: t' → m.Sound K (some c) t')
    (hrest : rest.Within K prev t) : (m.best ⟨prev, t.head?⟩ rest).Within (m.ways * K) prev t := by
  induction m generalizing K rest with
  | empty => simpa [best, ways] using hrest
  | look a =>
    intro passed r h
    simp only [best] at h
    split at h
    · next ha =>
      obtain ⟨w, hw, hl, rfl⟩ := hrest passed r h
      exact ⟨.look a :: w, ⟨[.look a], rfl, w, hw, rfl⟩, ⟨ha, hl⟩, rfl⟩
    · cases h
  | one s mark =>
    intro passed r h
    cases t with
    | nil => simp [best, Attempt.fail] at h
    | cons c t' =>
      cases mark with
      | none => simp [best, Attempt.fail] at h
      | some r' =>
        simp only [best, List.head?_cons] at h
        split at h
        · next hc =>
          obtain rfl : r'.push c = r := by simpa using h
          obtain ⟨w, hw, hl, rfl⟩ := hm c t' rfl r' rfl
          exact ⟨.take c :: w, ⟨[.take c], ⟨c, hc, rfl⟩, w, hw, rfl⟩, ⟨t', rfl, hl⟩, rfl⟩
        · cases h
  | cat a b iha ihb =>
    simp only [best, ways, mul_assoc]
    exact iha (fun c t' h => (hm c t' h).1) (ihb (fun c t' h => (hm c t' h).2) hrest)
  | alt a b iha ihb =>
    simp only [best, ways, add_mul]
    refine ((iha (fun c t' h => (hm c t' h).1) hrest).mono ?_).or
      ((ihb (fun c t' h => (hm c t' h).2) hrest).mono ?_)
    · exact fun _ hw => .inl hw
    · exact fun _ hw => .inr hw
  | group i a ih =>
    simp only [best, ways, mul_assoc]
    refine Attempt.Within.map (s := .opens i) (fun _ _ _ h => h) (ih hm ?_)
    exact Attempt.Within.map (s := .closes i) (fun _ _ _ h => h) hrest
  | enter l a ih => exact (ih hm hrest).station l
  | join l a ih => exact ih hm (hrest.station l)
  | plus greedy a ih =>
    simp only [best, ways, mul_assoc]
    exact ih hm (within_again greedy (ih hm Attempt.within_fail) hrest)

/-- **Marking a place keeps the invariant**, one place to the left. -/
theorem sound_remark (m : Marked) (hm : ∀ c t', t = c :: t' → m.Sound K (some c) t')
    (hrest : rest.Within K prev t) : (m.remark ⟨prev, t.head?⟩ rest).Sound K prev t := by
  induction m generalizing K rest with
  | empty | look => trivial
  | one s mark => exact fun r hr => hrest [] r hr
  | cat a b iha ihb =>
    have hb : ∀ c t', t = c :: t' → b.Sound K (some c) t' := fun c t' h => (hm c t' h).2
    refine ⟨?_, ihb hb hrest⟩
    rw [ways_remark]
    exact iha (fun c t' h => (hm c t' h).1) (within_best b hb hrest)
  | alt a b iha ihb =>
    exact ⟨iha (fun c t' h => (hm c t' h).1) hrest, ihb (fun c t' h => (hm c t' h).2) hrest⟩
  | group i a ih => exact ih hm (Attempt.Within.map (s := .closes i) (fun _ _ _ h => h) hrest)
  | enter l a ih => exact ih hm hrest
  | join l a ih => exact ih hm (hrest.station l)
  | plus greedy a ih =>
    simp only [remark, Sound, ways_remark]
    exact ih hm (within_again greedy (within_best a hm Attempt.within_fail) hrest)

/-! ### Passing over a text -/

/-- The best match at the start of a text that `prev` precedes; none if the text is empty. -/
def matchAt? (m : Marked) (prev : Option Char) : Text → Option Run
  | [] => none
  | c :: t => (m.sweep (some c) t).2.here ⟨prev, some c⟩

/-- The rows of a text, each with what is found at its place. -/
theorem sweep_rows_cons (m : Marked) (prev : Option Char) (c : Char) (t : Text) :
    (m.sweep prev (c :: t)).1 = (c, m.matchAt? prev (c :: t)) :: (m.sweep (some c) t).1 := rfl

theorem sound_sweep (m : Marked) (prev : Option Char) (t : Text) :
    (m.sweep prev t).2.Sound 1 prev t ∧ (m.sweep prev t).2.ways = m.ways := by
  induction t generalizing prev with
  | nil => exact ⟨sound_remark m (fun _ _ h => by cases h) Attempt.within_arrive, ways_remark ..⟩
  | cons c t ih =>
    obtain ⟨hs, hw⟩ := ih (some c)
    refine ⟨sound_remark (t := c :: t) _ ?_ Attempt.within_arrive, ?_⟩
    · rintro _ _ ⟨⟩
      exact hs
    · exact (ways_remark ..).trans hw

/-- **What is found is a way**: the best match at a place is the run of a way through the
expression that leads from the place on. -/
theorem reads_matchAt? {m : Marked} {prev : Option Char} {t : Text} {r : Run}
    (h : m.matchAt? prev t = some r) : Reads m.ways prev t r := by
  cases t with
  | nil => cases h
  | cons c t =>
    obtain ⟨hs, hw⟩ := sound_sweep m (some c) t
    have hmarks : ∀ d u, c :: t = d :: u → (m.sweep (some c) t).2.Sound 1 (some d) u := by
      rintro _ _ ⟨⟩
      exact hs
    have hbest : ((m.sweep (some c) t).2.best ⟨prev, some c⟩ .arrive).Within
        ((m.sweep (some c) t).2.ways * 1) prev (c :: t) :=
      within_best (t := c :: t) _ hmarks Attempt.within_arrive
    rw [mul_one, hw] at hbest
    exact hbest [] r h

end Marked

end CodeMarkup.Regex
