import CodeMarkup.Text

/-!
# Tables of runs

A property of characters that is laid down by a standard is kept as *runs*: the
code points from 0 upwards are cut into stretches on which the property does not
change, and a table lists where each stretch starts and which value it has.
Looking a character up is a binary search for the last start that is not beyond
it (`CodeMarkup.Unicode.RunTable.get?`).

The tables are written as text, one word for each run: the length of the run in
hexadecimal, in lower case, followed by its value, which begins with a capital
letter. A table of a yes-or-no property leaves the values out: its runs are
"no" and "yes" in turn, beginning with "no".
-/

namespace CodeMarkup.Unicode

/-- The code points from 0 upwards, cut into runs of equal value. -/
structure RunTable (α : Type) where
  /-- The first code point of each run, in ascending order. -/
  starts : Array Nat
  /-- The value of each run. -/
  values : Array α
  /-- The first code point after the last run. -/
  stop : Nat

namespace RunTable

/-! ### Looking up -/

/-- Bisection: the greatest index from `lo` up to, and without, `hi` whose entry
is at most `x`, if the entry at `lo` is; `fuel` bounds the number of halvings. -/
def bisect (starts : Array Nat) (x : Nat) : Nat → Nat → Nat → Nat
  | 0, lo, _ => lo
  | fuel + 1, lo, hi =>
    if hi ≤ lo + 1 then lo
    else
      let mid := (lo + hi) / 2
      if starts.getD mid 0 ≤ x then bisect starts x fuel mid hi
      else bisect starts x fuel lo mid

/-- The value of the run that code point `x` lies in. -/
def get? {α : Type} (t : RunTable α) (x : Nat) : Option α :=
  if x < t.stop then t.values[bisect t.starts x t.starts.size 0 t.starts.size]? else none

/-- Whether `x` lies in a run of "yes". -/
def contains (t : RunTable Bool) (x : Nat) : Bool := (t.get? x).getD false

/-- The runs with their first and last code points. -/
def toList {α : Type} (t : RunTable α) : List (Nat × Nat × α) :=
  let ends := t.starts.toList.drop 1 ++ [t.stop]
  ((t.starts.toList.zip ends).zip t.values.toList).map
    fun ((start, next), value) => (start, next - 1, value)

/-- The intervals, both ends included, on which the value satisfies `p`. -/
def intervals {α : Type} (t : RunTable α) (p : α → Bool) : List (Nat × Nat) :=
  t.toList.filterMap fun (start, last, value) => if p value then some (start, last) else none

/-! ### Reading a table -/

/-- The value of a hexadecimal digit in lower case. -/
def hexValue? (c : Char) : Option Nat :=
  if c.isDigit then some (c.toNat - '0'.toNat)
  else if 'a' ≤ c ∧ c ≤ 'f' then some (c.toNat - 'a'.toNat + 10)
  else none

/-- The number and the value that one word of a table writes. -/
def readWord (word : List Char) : Nat × List Char :=
  let digits := word.takeWhile fun c => (hexValue? c).isSome
  (digits.foldl (fun n c => 16 * n + (hexValue? c).getD 0) 0, word.drop digits.length)

/-- The lengths and values that the lines of a table write. -/
def readRuns (lines : List String) : List (Nat × List Char) :=
  lines.flatMap fun line => (Text.splitOn ' ' line.toList).map readWord

/-- The table whose runs have the given lengths and values. -/
def ofLengths {α : Type} (runs : List (Nat × α)) : RunTable α :=
  runs.foldl
    (fun t (len, value) =>
      { starts := t.starts.push t.stop, values := t.values.push value, stop := t.stop + len })
    { starts := #[], values := #[], stop := 0 }

/-- The table that `lines` write, with each value read by `value`. -/
def read {α : Type} (value : String → α) (lines : List String) : RunTable α :=
  ofLengths ((readRuns lines).map fun (len, tag) => (len, value (String.ofList tag)))

/-- The table of a yes-or-no property that `lines` write. -/
def readSet (lines : List String) : RunTable Bool :=
  ofLengths <| (readRuns lines).zipIdx.map fun ((len, _), i) => (len, i % 2 == 1)

end RunTable

end CodeMarkup.Unicode
