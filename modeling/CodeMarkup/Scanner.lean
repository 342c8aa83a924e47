import CodeMarkup.Text

/-!
# Scanners

A notation is read by *scanners* (`CodeMarkup.Scanner`): functions that take what
they read off the front of a text and give it back with the rest of the text, or
nothing if the text does not begin as it should.

Here are the steps that all notations share: a given word (`CodeMarkup.Scanner.word`),
the characters of a kind (`CodeMarkup.Scanner.chars`), and a row of items with a
separator between them (`CodeMarkup.Scanner.separated`).
-/

namespace CodeMarkup

/-- A function that takes something off the front of a text. -/
abbrev Scanner (α : Type) := Text → Option (α × Text)

namespace Scanner

/-- The text without the word that it begins with. -/
def word : Text → Text → Option Text
  | [], t => some t
  | c :: cs, d :: t => if c = d then word cs t else none
  | _ :: _, [] => none

theorem word_append (w t : Text) : word w (w ++ t) = some t := by
  induction w with
  | nil => rfl
  | cons c cs ih => simpa [word] using ih

theorem word_eq_some_iff {w t r : Text} : word w t = some r ↔ t = w ++ r := by
  constructor
  · intro h
    induction w generalizing t with
    | nil => simpa [word] using h
    | cons c cs ih =>
      cases t with
      | nil => simp [word] at h
      | cons d t =>
        rw [word] at h
        split at h
        · next hcd => rw [hcd, ih h]; rfl
        · cases h
  · rintro rfl
    exact word_append w r

/-- The characters of a kind that a text begins with, and the text behind them. -/
def chars (p : Char → Bool) (t : Text) : Text × Text := (t.takeWhile p, t.dropWhile p)

/-- Characters of a kind are found if no more of them come behind. -/
theorem chars_append {p : Char → Bool} {t r : Text} (ht : ∀ c ∈ t, p c)
    (hr : ∀ c ∈ r.head?, p c = false) : chars p (t ++ r) = (t, r) := by
  rw [chars, List.takeWhile_append_of_pos ht, List.dropWhile_append_of_pos ht]
  cases r with
  | nil => simp
  | cons c r => simp [hr c rfl]

variable {α : Type}

/-- At most so many items with a separator between any two. A separator that no item
follows is left in the rest. -/
def separatedUpTo (sep : Char) (item : Scanner α) : Nat → Text → List α × Text
  | 0, t => ([], t)
  | n + 1, t =>
    match item t with
    | none => ([], t)
    | some (a, []) => ([a], [])
    | some (a, c :: r) =>
      if c = sep then
        match separatedUpTo sep item n r with
        | ([], _) => ([a], c :: r)
        | (as, r') => (a :: as, r')
      else ([a], c :: r)

/-- The items that a text begins with, with a separator between any two. Each of them but
the last has a separator behind it, so there are no more than the text has characters
and one. -/
def separated (sep : Char) (item : Scanner α) (t : Text) : List α × Text :=
  separatedUpTo sep item (t.length + 1) t

end Scanner

end CodeMarkup
