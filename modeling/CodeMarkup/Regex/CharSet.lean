import CodeMarkup.Unicode.CharProperty
import CodeMarkup.Unicode.CaseFolding
import CodeMarkup.Unicode.WhiteSpace

/-!
# Sets of characters

What a pattern allows at one place is a *set of characters*. A set is kept the
way it was put together (`CodeMarkup.Regex.CharSet`), from ranges, named classes
and the operations on them, and is asked about one character at a time
(`CodeMarkup.Regex.CharSet.contains`); nothing is ever expanded to a list of
characters.

The three classes `\w`, `\d` and `\s` are decided for the characters below 128
without a look at a table.
-/

namespace CodeMarkup.Regex

/-! ### The classes of word characters, digits and white space -/

/-- A word character below 128: a letter, a digit or the low line. -/
def isAsciiWord (c : Char) : Bool := c.isAlphanum || c = '_'

/-- A word character: alphabetic, a mark, a decimal digit, a connector or one of the
two characters that control joining. -/
def isWord (c : Char) : Bool :=
  if c.toNat < 128 then isAsciiWord c
  else
    Unicode.BinaryProperty.alphabetic.holds c ||
      (let k := Unicode.category c
       k = .nonspacingMark || k = .spacingMark || k = .enclosingMark || k = .decimalNumber ||
         k = .connectorPunctuation) ||
      Unicode.BinaryProperty.joinControl.holds c

/-- A decimal digit of any script. -/
def isDigit (c : Char) : Bool :=
  if c.toNat < 128 then c.isDigit else Unicode.category c = .decimalNumber

/-! ### Sets -/

/-- A set of characters, as an expression. -/
inductive CharSet where
  /-- No character. -/
  | empty
  /-- The characters from `lo` to `hi`, both included. -/
  | range (lo hi : Char)
  /-- The word characters. -/
  | word
  /-- The decimal digits. -/
  | digit
  /-- The white space. -/
  | space
  /-- The characters with a property. -/
  | property (p : Unicode.CharProperty)
  /-- The characters of either set. -/
  | union (a b : CharSet)
  /-- The characters of both sets. -/
  | inter (a b : CharSet)
  /-- The characters of the first set that are not in the second. -/
  | diff (a b : CharSet)
  /-- All other characters. -/
  | compl (a : CharSet)
  /-- The characters of the set and those that differ from one of them in case only. -/
  | fold (a : CharSet)
  deriving DecidableEq, Repr, Inhabited

namespace CharSet

/-- Whether `c` is in the set. -/
def contains : CharSet → Char → Bool
  | empty, _ => false
  | range lo hi, c => lo ≤ c && c ≤ hi
  | word, c => isWord c
  | digit, c => isDigit c
  | space, c => Unicode.isWhiteSpace c
  | property p, c => p.contains c
  | union a b, c => a.contains c || b.contains c
  | inter a b, c => a.contains c && b.contains c
  | diff a b, c => a.contains c && !b.contains c
  | compl a, c => !a.contains c
  | fold a, c => a.contains c || (Unicode.caseVariants c).any a.contains

/-- The set of one character. -/
def single (c : Char) : CharSet := range c c

/-- All characters. -/
def all : CharSet := compl empty

/-- The characters of any of the sets. -/
def unionAll : List CharSet → CharSet
  | [] => empty
  | [a] => a
  | a :: as => union a (unionAll as)

/-- The characters of a list. -/
def ofList (cs : List Char) : CharSet := unionAll (cs.map single)

/-- The characters of exactly one of the two sets. -/
def symmDiff (a b : CharSet) : CharSet := union (diff a b) (diff b a)

@[simp] theorem contains_single {c d : Char} : (single c).contains d ↔ d = c := by
  simp only [single, contains, Bool.and_eq_true, decide_eq_true_eq]
  exact ⟨fun ⟨h, h'⟩ => Char.le_antisymm h' h, fun h => by subst h; simp⟩

theorem contains_ofList {cs : List Char} {d : Char} : (ofList cs).contains d ↔ d ∈ cs := by
  induction cs with
  | nil => simp [ofList, unionAll, contains]
  | cons c cs ih =>
    cases cs with
    | nil => simp [ofList, unionAll]
    | cons c' cs =>
      have hunion : (ofList (c :: c' :: cs)).contains d =
          ((single c).contains d || (ofList (c' :: cs)).contains d) := rfl
      rw [hunion, Bool.or_eq_true_iff, contains_single, ih, ← List.mem_cons]

/-- The characters that are none of those given. -/
theorem contains_compl_ofList (cs : List Char) (d : Char) :
    (compl (ofList cs)).contains d = decide (d ∉ cs) := by
  rw [Bool.eq_iff_iff, decide_eq_true_iff, ← contains_ofList]
  simp [contains]

@[simp] theorem contains_all (c : Char) : all.contains c := by simp [all, contains]

/-! ### Sets as intervals

How much room a pattern takes depends on the intervals its sets are made of. -/

/-- Intervals of code points, both ends included. -/
abbrev Intervals := List (Nat × Nat)

/-- Intervals in ascending order after `(a, b)`, grown together where they touch or overlap. -/
def grow (a b : Nat) : Intervals → Intervals
  | [] => [(a, b)]
  | (c, d) :: rest => if c ≤ b + 1 then grow a (max b d) rest else (a, b) :: grow c d rest

/-- The same set in its shortest form: ascending, and with gaps in between. -/
def canonical (l : Intervals) : Intervals :=
  match l.mergeSort fun x y => x.1 ≤ y.1 with
  | [] => []
  | (a, b) :: rest => grow a b rest

/-- What intervals in ascending order leave out from `start` on. -/
def gaps (start : Nat) : Intervals → Intervals
  | [] => if start ≤ 0x10ffff then [(start, 0x10ffff)] else []
  | (a, b) :: rest => if start < a then (start, a - 1) :: gaps (b + 1) rest else gaps (b + 1) rest

/-- All code points outside the intervals. -/
def complIntervals (l : Intervals) : Intervals := gaps 0 (canonical l)

/-- The code points in both sets of intervals. -/
def interIntervals (a b : Intervals) : Intervals :=
  complIntervals (complIntervals a ++ complIntervals b)

/-- Whether a code point lies in one of the intervals. -/
def inIntervals (l : Intervals) (x : Nat) : Bool := l.any fun (a, b) => a ≤ x && x ≤ b

/-- The intervals with the case variants of their members added. -/
def foldIntervals (l : Intervals) : Intervals :=
  let more := Unicode.caseClasses.flatMap fun members =>
    if members.any (inIntervals l) then members.map fun x => (x, x) else []
  canonical (l ++ more)

/-- The intervals of the word characters. -/
def wordIntervals : Intervals :=
  canonical <|
    (Unicode.CharProperty.binary .alphabetic).intervals ++
      (Unicode.CharProperty.category
        [.nonspacingMark, .spacingMark, .enclosingMark, .decimalNumber,
          .connectorPunctuation]).intervals ++
      (Unicode.CharProperty.binary .joinControl).intervals

/-- The intervals that make up a set, code points that are no characters aside. -/
def intervals : CharSet → Intervals
  | empty => []
  | range lo hi => if lo ≤ hi then [(lo.toNat, hi.toNat)] else []
  | word => wordIntervals
  | digit => (Unicode.CharProperty.category [.decimalNumber]).intervals
  | space => (Unicode.CharProperty.binary .whiteSpace).intervals
  | property p => canonical p.intervals
  | union a b => canonical (a.intervals ++ b.intervals)
  | inter a b => interIntervals a.intervals b.intervals
  | diff a b => interIntervals a.intervals (complIntervals b.intervals)
  | compl a => complIntervals a.intervals
  | fold a => foldIntervals a.intervals

/-- The intervals of the set without the surrogates, which are no characters. -/
def charIntervals (a : CharSet) : Intervals :=
  interIntervals a.intervals [(0, 0xd7ff), (0xe000, 0x10ffff)]

end CharSet

end CodeMarkup.Regex
