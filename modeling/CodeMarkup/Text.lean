/-!
# Text

A document is handled character by character, so a *text* is a list of
characters (`CodeMarkup.Text`). This module has the one operation on texts that
does not depend on what they mean: cutting at a separator and joining again
(`CodeMarkup.Text.splitOn`, `CodeMarkup.Text.join`), which undo each other as
long as no part has the separator in it.
-/

namespace CodeMarkup

/-- A piece of a document, character by character. -/
abbrev Text := List Char

namespace Text

/-- The parts of a text between the occurrences of `sep`. -/
def splitOn (sep : Char) : Text → List Text
  | [] => [[]]
  | c :: cs =>
    if c = sep then [] :: splitOn sep cs
    else
      match splitOn sep cs with
      | [] => [[c]]
      | part :: parts => (c :: part) :: parts

@[simp] theorem splitOn_nil (sep : Char) : splitOn sep [] = [[]] := rfl

theorem splitOn_ne_nil (sep : Char) (t : Text) : splitOn sep t ≠ [] := by
  cases t with
  | nil => simp
  | cons c cs =>
    unfold splitOn
    split
    · simp
    · split <;> simp

@[simp] theorem splitOn_cons_self (sep : Char) (t : Text) :
    splitOn sep (sep :: t) = [] :: splitOn sep t := by simp [splitOn]

theorem splitOn_cons_of_ne {sep c : Char} (h : c ≠ sep) (t : Text) :
    ∃ part parts, splitOn sep t = part :: parts ∧
      splitOn sep (c :: t) = (c :: part) :: parts := by
  match hs : splitOn sep t with
  | [] => exact absurd hs (splitOn_ne_nil sep t)
  | part :: parts => exact ⟨part, parts, rfl, by simp [splitOn, h, hs]⟩

/-- There is one part more than there are separators. -/
theorem length_splitOn (sep : Char) (t : Text) :
    (splitOn sep t).length = t.count sep + 1 := by
  induction t with
  | nil => rfl
  | cons c cs ih =>
    by_cases h : c = sep
    · subst h; simp [ih]
    · obtain ⟨part, parts, hs, hc⟩ := splitOn_cons_of_ne h cs
      rw [hc, List.count_cons_of_ne h, ← ih, hs]; rfl

/-- The parts one after the other, with `sep` between any two. -/
def join (sep : Text) : List Text → Text
  | [] => []
  | [part] => part
  | part :: parts => part ++ sep ++ join sep parts

/-- **Cutting and joining**: nothing is lost between the parts but the separators. -/
theorem join_splitOn (sep : Char) (t : Text) : join [sep] (splitOn sep t) = t := by
  induction t with
  | nil => rfl
  | cons c cs ih =>
    by_cases h : c = sep
    · subst h
      cases hs : splitOn c cs with
      | nil => exact absurd hs (splitOn_ne_nil c cs)
      | cons part parts => rw [splitOn_cons_self, hs, ← ih, hs]; rfl
    · obtain ⟨part, parts, hs, hc⟩ := splitOn_cons_of_ne h cs
      rw [hc]
      rw [hs] at ih
      cases parts with
      | nil => simpa [join] using ih
      | cons q qs => simpa [join] using ih

end Text

end CodeMarkup
