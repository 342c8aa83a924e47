import CodeMarkup.Frame
import Mathlib.Algebra.Ring.Nat

/-!
# Places in a text

A place in a text is given in two ways: by the number of characters before it, and as it is shown,
by a line and the number of characters before it on this line. **The two say the same**
(`CodeMarkup.Caret.places`): each number up to the length of the text has its place, each place on
one of the lines has its number (`CodeMarkup.Caret.offset`), and the places of greater numbers come
later.

From a number to a place it goes by cutting what stands before it into lines. What has to be seen is
that these are lines of the whole text, but for the last one, which is the start of a line
(`CodeMarkup.Text.splitOn_append`). From a place to a number it goes by adding up the lines above
it, each with its line feed (`CodeMarkup.Caret.charsAbove`). A line is shorter than it is with its
line feed, so the numbers of its places do not reach those of the next one
(`CodeMarkup.Caret.offset_lt_offset_iff`).
-/

namespace CodeMarkup

namespace Text

variable {sep : Char} {u v l m : Text} {init rest : List Text}

/-- **The parts of two texts, one behind the other**: the last part of the first text and the first
part of the second one become one. -/
theorem splitOn_append (hu : splitOn sep u = init ++ [l]) (hv : splitOn sep v = m :: rest) :
    splitOn sep (u ++ v) = init ++ (l ++ m) :: rest := by
  induction u generalizing init l with
  | nil =>
    obtain ⟨rfl, rfl⟩ : init = [] ∧ l = [] := by
      have := List.append_eq_singleton_iff.1 hu.symm
      simpa using this
    simpa using hv
  | cons c u ih =>
    by_cases hc : c = sep
    · subst hc
      rw [splitOn_cons_self] at hu
      cases init with
      | nil => exact absurd (List.cons.inj hu).2 (splitOn_ne_nil c u)
      | cons part init =>
        obtain ⟨rfl, hrest⟩ := List.cons.inj hu
        rw [List.cons_append, splitOn_cons_self, ih hrest]
        rfl
    · obtain ⟨part, parts, hparts, hcons⟩ := splitOn_cons_of_ne hc u
      obtain ⟨part', parts', hparts', hcons'⟩ := splitOn_cons_of_ne hc (u ++ v)
      rw [hcons] at hu
      rw [List.cons_append, hcons']
      cases init with
      | nil =>
        obtain ⟨rfl, rfl⟩ := List.cons.inj hu
        have hlast : splitOn sep u = [] ++ [part] := hparts
        rw [ih hlast] at hparts'
        cases hparts'
        rfl
      | cons part₀ init =>
        obtain ⟨rfl, rfl⟩ := List.cons.inj hu
        have hlast : splitOn sep u = (part :: init) ++ [l] := hparts
        rw [ih hlast] at hparts'
        cases hparts'
        rfl

/-- Every text has a last part. -/
theorem exists_splitOn_eq_concat (sep : Char) (t : Text) :
    ∃ init l, splitOn sep t = init ++ [l] :=
  ⟨_, _, (List.dropLast_concat_getLast (splitOn_ne_nil sep t)).symm⟩

/-- **The length of a text** by its parts: all of them but the last one have a separator behind
them. -/
theorem length_of_splitOn (h : splitOn sep u = init ++ [l]) :
    u.length = (init.map fun part => part.length + 1).sum + l.length := by
  rw [← join_splitOn sep u, h]
  clear h
  induction init with
  | nil => simp [join]
  | cons part init ih =>
    have hjoin : join [sep] (part :: (init ++ [l])) = part ++ sep :: join [sep] (init ++ [l]) := by
      cases init <;> simp [join]
    rw [List.cons_append, hjoin, List.length_append, List.length_cons, ih, List.map_cons,
      List.sum_cons]
    omega

end Text

namespace Caret

variable {ls : List Text} {p q : Caret}

/-! ### Numbers of places -/

/-- The number of characters on the first `n` lines, with the line feeds behind them. -/
def charsAbove (ls : List Text) (n : Nat) : Nat := ((ls.take n).map fun l => l.length + 1).sum

/-- **The number of characters before a place** in a text with the given lines. -/
def offset (ls : List Text) (p : Caret) : Nat := charsAbove ls (p.line - 1) + p.col

/-- That a place is on one of the lines, and not behind the end of this. -/
structure IsIn (p : Caret) (ls : List Text) : Prop where
  /-- Lines are counted from 1. -/
  one_le : 1 ≤ p.line
  /-- There is the line. -/
  le_length : p.line ≤ ls.length
  /-- There are as many characters on it. -/
  col_le : ∀ l ∈ ls[p.line - 1]?, p.col ≤ l.length

/-- That one place comes before another one: on an earlier line, or earlier on the same line. -/
def Before (p q : Caret) : Prop := p.line < q.line ∨ p.line = q.line ∧ p.col < q.col

theorem charsAbove_succ {n : Nat} {l : Text} (h : ls[n]? = some l) :
    charsAbove ls (n + 1) = charsAbove ls n + (l.length + 1) := by
  simp [charsAbove, List.take_add_one, h]

theorem charsAbove_mono {n n' : Nat} (h : n ≤ n') : charsAbove ls n ≤ charsAbove ls n' := by
  obtain ⟨d, rfl⟩ := Nat.exists_eq_add_of_le h
  rw [charsAbove, charsAbove, List.take_add, List.map_append, List.sum_append]
  exact Nat.le_add_right _ _

/-- The characters of all lines are those of the text and a line feed more. -/
theorem charsAbove_lines (text : Text) :
    charsAbove (lines text) (lines text).length = text.length + 1 := by
  obtain ⟨init, l, hlines⟩ := Text.exists_splitOn_eq_concat '\n' text
  rw [Text.length_of_splitOn hlines, charsAbove, List.take_length, lines, hlines]
  simp [Nat.add_assoc]

/-- The place is on the line. -/
theorem IsIn.exists_line (hp : p.IsIn ls) : ∃ l, ls[p.line - 1]? = some l ∧ p.col ≤ l.length := by
  have hlt : p.line - 1 < ls.length := by
    have := hp.one_le
    have := hp.le_length
    omega
  have hl := List.getElem?_eq_getElem hlt
  exact ⟨_, hl, hp.col_le _ hl⟩

/-- **The places of a line** have numbers below those of the next one. -/
theorem IsIn.offset_lt (hp : p.IsIn ls) : offset ls p < charsAbove ls p.line := by
  obtain ⟨l, hl, hcol⟩ := hp.exists_line
  have hsucc := charsAbove_succ hl
  rw [Nat.sub_add_cancel hp.one_le] at hsucc
  rw [hsucc, offset]
  omega

theorem offset_lt_of_before (hp : p.IsIn ls) (h : p.Before q) : offset ls p < offset ls q := by
  rcases h with hline | ⟨hline, hcol⟩
  · calc
      offset ls p < charsAbove ls p.line := hp.offset_lt
      _ ≤ charsAbove ls (q.line - 1) := charsAbove_mono (Nat.le_sub_one_of_lt hline)
      _ ≤ offset ls q := Nat.le_add_right _ _
  · rw [offset, offset, hline]
    omega

/-- One of two places comes before the other one, or they are the same. -/
theorem before_trichotomy (p q : Caret) : p.Before q ∨ p = q ∨ q.Before p := by
  obtain ⟨line, col⟩ := p
  obtain ⟨line', col'⟩ := q
  simp only [Before, Caret.mk.injEq]
  omega

/-- **The numbers of places are in the order of the places.** -/
theorem offset_lt_offset_iff (hp : p.IsIn ls) (hq : q.IsIn ls) :
    offset ls p < offset ls q ↔ p.Before q := by
  refine ⟨fun hlt => ?_, offset_lt_of_before hp⟩
  rcases before_trichotomy p q with h | rfl | h
  · exact h
  · exact absurd hlt (Nat.lt_irrefl _)
  · exact absurd hlt (Nat.lt_asymm (offset_lt_of_before hq h))

/-- **Two places with one number are the same.** -/
theorem eq_of_offset_eq (hp : p.IsIn ls) (hq : q.IsIn ls) (h : offset ls p = offset ls q) :
    p = q := by
  rcases before_trichotomy p q with hpq | hpq | hqp
  · exact absurd h (Nat.ne_of_lt (offset_lt_of_before hp hpq))
  · exact hpq
  · exact absurd h (Nat.ne_of_gt (offset_lt_of_before hq hqp))

/-! ### Places of numbers -/

/-- **The place behind the start of a text** is one of the text, and its number is the length of the
start. -/
theorem isIn_behind (u v : Text) :
    (behind u).IsIn (lines (u ++ v)) ∧ offset (lines (u ++ v)) (behind u) = u.length := by
  obtain ⟨init, l, hu⟩ := Text.exists_splitOn_eq_concat '\n' u
  obtain ⟨m, rest, hv⟩ := List.exists_cons_of_ne_nil (Text.splitOn_ne_nil '\n' v)
  have hlines : lines (u ++ v) = init ++ (l ++ m) :: rest := Text.splitOn_append hu hv
  have hbehind : behind u = ⟨init.length + 1, l.length⟩ := by simp [behind, lines, hu]
  rw [hlines, hbehind]
  refine ⟨⟨Nat.le_add_left _ _, by simp, ?_⟩, ?_⟩
  · intro l' hl'
    obtain rfl : l ++ m = l' := by simpa using hl'
    simp
  · rw [Text.length_of_splitOn hu]
    simp [offset, charsAbove]

theorem isIn_atOffset (text : Text) (o : Nat) : (atOffset text o).IsIn (lines text) := by
  have h := (isIn_behind (text.take o) (text.drop o)).1
  rwa [List.take_append_drop] at h

theorem offset_atOffset (text : Text) (o : Nat) :
    offset (lines text) (atOffset text o) = min o text.length := by
  have h := (isIn_behind (text.take o) (text.drop o)).2
  rwa [List.take_append_drop, List.length_take] at h

/-- The number of a place is at most the length of the text. -/
theorem IsIn.offset_le {text : Text} (hp : p.IsIn (lines text)) :
    offset (lines text) p ≤ text.length := by
  have hlt := Nat.lt_of_lt_of_le hp.offset_lt (charsAbove_mono hp.le_length)
  rw [charsAbove_lines] at hlt
  exact Nat.le_of_lt_succ hlt

/-! ### Main statement -/

/-- **Places and numbers of characters are the same thing.** The place of a number is one of the
text, its number is the one that was given, or the length of the text if this is less, and it is
the place behind so many characters. Numbers up to the length have places in their order. Every
place of the text is the place of a number, and of its own one. -/
theorem places (text : Text) :
    (∀ o, (atOffset text o).IsIn (lines text) ∧
        offset (lines text) (atOffset text o) = min o text.length ∧
        atOffset text o = behind (text.take (min o text.length))) ∧
      (∀ o ≤ text.length, ∀ o' ≤ text.length,
        (atOffset text o).Before (atOffset text o') ↔ o < o') ∧
      ∀ p : Caret, p.IsIn (lines text) →
        offset (lines text) p ≤ text.length ∧ atOffset text (offset (lines text) p) = p := by
  refine ⟨fun o => ⟨isIn_atOffset text o, offset_atOffset text o, ?_⟩, fun o ho o' ho' => ?_,
    fun p hp => ⟨hp.offset_le, ?_⟩⟩
  · rw [atOffset, ← List.take_take, List.take_length]
  · rw [← offset_lt_offset_iff (isIn_atOffset text o) (isIn_atOffset text o'), offset_atOffset,
      offset_atOffset, Nat.min_eq_left ho, Nat.min_eq_left ho']
  · refine eq_of_offset_eq (isIn_atOffset text _) hp ?_
    rw [offset_atOffset, Nat.min_eq_left hp.offset_le]

/-- Behind the last line feed there is a line without characters. -/
theorem places_lastLine :
    Caret.IsIn ⟨4, 0⟩ (lines "é\n\nb\n".toList) ∧
      offset (lines "é\n\nb\n".toList) ⟨4, 0⟩ = 5 ∧ atOffset "é\n\nb\n".toList 5 = ⟨4, 0⟩ ∧
      (atOffset "é\n\nb\n".toList 4).Before ⟨4, 0⟩ := by
  have hlines : lines "é\n\nb\n".toList = [['é'], [], ['b'], []] := by decide
  have hplace : Caret.IsIn ⟨4, 0⟩ (lines "é\n\nb\n".toList) := by
    rw [hlines]
    exact ⟨by decide, by decide, by simp⟩
  have hoffset : offset (lines "é\n\nb\n".toList) ⟨4, 0⟩ = 5 := by decide
  obtain ⟨-, horder, hback⟩ := places "é\n\nb\n".toList
  obtain ⟨-, hsame⟩ := hback _ hplace
  rw [hoffset] at hsame
  have hbefore := (horder 4 (by decide) 5 (by decide)).2 (by decide)
  rw [hsame] at hbefore
  exact ⟨hplace, hoffset, hsame, hbefore⟩

end Caret

end CodeMarkup
