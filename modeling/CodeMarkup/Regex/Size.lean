import Std.Data.HashMap
import CodeMarkup.Regex.Expr

/-!
# The size of an expression

A pattern that would take too much room is refused. The room is that of two
automata over bytes, one that reads forwards and one that reads backwards
(`CodeMarkup.Regex.Expr.bytes`), and either of them may take at most
`CodeMarkup.Regex.sizeLimit` bytes. Counted repetitions are copied out, so
`a{1000}{1000}{1000}` has a thousand million copies of one state; the count is
arithmetic, and nothing is copied in order to find it.

A set with characters beyond 127 becomes an automaton of several states, since
such characters take several bytes. Forwards its equal states are shared,
backwards only its equal beginnings are.
-/

namespace CodeMarkup.Regex

/-- The room that an automaton may take, in bytes. -/
def sizeLimit : Nat := 10 * 1024 * 1024

/-- The room of one state without its ways out. -/
def stateBytes : Nat := 32

/-- The room of one way out that reads a byte. -/
def arrowBytes : Nat := 8

/-- The room of one way out that reads nothing. -/
def branchBytes : Nat := 4

/-! ### Characters as bytes -/

/-- The bytes of a code point. -/
def utf8 (x : Nat) : List Nat :=
  if x < 0x80 then [x]
  else if x < 0x800 then [0xc0 + x / 0x40, 0x80 + x % 0x40]
  else if x < 0x10000 then [0xe0 + x / 0x1000, 0x80 + x / 0x40 % 0x40, 0x80 + x % 0x40]
  else [0xf0 + x / 0x40000, 0x80 + x / 0x1000 % 0x40, 0x80 + x / 0x40 % 0x40, 0x80 + x % 0x40]

/-- An interval of code points cut at the first multiple of `2 ^ (6 * i)` for which the
two ends lie apart, for `i` from 1 to 3, and at the lengths of the encoding: if it
has to be cut, its two parts. -/
def cutInterval? (a b : Nat) : Option ((Nat × Nat) × (Nat × Nat)) :=
  match [0x7f, 0x7ff, 0xffff].find? fun m => a ≤ m && m < b with
  | some m => some ((a, m), (m + 1, b))
  | none =>
    if b < 0x80 then none
    else
      [0x40, 0x1000, 0x40000].findSome? fun m =>
        if a / m = b / m then none
        else if a % m ≠ 0 then some ((a, a / m * m + m - 1), (a / m * m + m, b))
        else if b % m ≠ m - 1 then some ((a, b / m * m - 1), (b / m * m, b))
        else none

/-- The intervals of bytes, one for each byte of an encoding, that together make up an
interval of code points; `fuel` bounds the depth of the cuts. -/
def byteRanges : Nat → Nat → Nat → List (List (Nat × Nat))
  | 0, a, b => [(utf8 a).zip (utf8 b)]
  | fuel + 1, a, b =>
    match cutInterval? a b with
    | some ((a, m), (n, b)) => byteRanges fuel a m ++ byteRanges fuel n b
    | none => [(utf8 a).zip (utf8 b)]

/-- The sequences of byte intervals of a set. A cut leaves an end of the interval at a
multiple of a power of 64, so eight cuts in a row are enough. -/
def CharSet.byteRanges (s : CharSet) : List (List (Nat × Nat)) :=
  s.charIntervals.flatMap fun (a, b) => Regex.byteRanges 12 a b

/-- Lists with the same head that follow one another, as the head and the tails. -/
def groupHeads {α : Type} [DecidableEq α] : List (List α) → List (α × List (List α))
  | [] => []
  | [] :: rest => groupHeads rest
  | (a :: as) :: rest =>
    match groupHeads rest with
    | (b, tails) :: more =>
      if a = b then (b, as :: tails) :: more else (a, [as]) :: (b, tails) :: more
    | [] => [(a, [as])]

/-- The states of an automaton that shares equal states: each with its ways out, and the
number it has. -/
abbrev StateTable := Std.HashMap (List ((Nat × Nat) × Nat)) Nat

/-- Adds the automaton of some sequences to a table, and gives the number of its first
state; the state behind the last byte has the number 0. `depth` bounds the length
of the sequences. -/
def shareStates : Nat → List (List (Nat × Nat)) → StateM StateTable Nat
  | 0, _ => pure 0
  | depth + 1, sequences =>
    if sequences.all (·.isEmpty) then pure 0
    else do
      let arrows ← (groupHeads sequences).mapM fun (range, tails) =>
        return (range, ← shareStates depth tails)
      let table ← get
      match table[arrows]? with
      | some n => return n
      | none =>
        let n := table.size + 1
        set (table.insert arrows n)
        return n

/-- The number of different beginnings of some sequences, up to the length `depth`. -/
def countPrefixes : Nat → List (List (Nat × Nat)) → Nat
  | 0, _ => 0
  | depth + 1, sequences =>
    ((groupHeads sequences).map fun (_, tails) => 1 + countPrefixes depth tails).sum

/-- The room of a set of characters, forwards and backwards. -/
def CharSet.bytes (s : CharSet) : Nat × Nat :=
  match s.charIntervals with
  | [(a, b)] =>
    if a = b then
      let n := stateBytes * (utf8 a).length
      (n, n)
    else general
  | _ => general
where
  /-- The room of a set of several characters. -/
  general : Nat × Nat :=
    let intervals := s.charIntervals
    if intervals.all fun (_, b) => b < 128 then
      let n := 2 * stateBytes + arrowBytes * intervals.length
      (n, n)
    else
      let sequences := s.byteRanges
      let table := (shareStates 5 sequences |>.run ∅).2
      let arrows := table.fold (fun n arrows _ => n + arrows.length) 0
      ((table.size + 1) * stateBytes + arrows * arrowBytes,
        (countPrefixes 5 sequences + 2) * stateBytes + sequences.length * branchBytes)

/-! ### Expressions -/

namespace Expr

/-- The room of an expression, forwards and backwards, with that of a set given by `set`.
Groups take room only forwards. -/
def bytesWith (set : CharSet → Nat × Nat) : Expr → Nat × Nat
  | empty => (stateBytes, stateBytes)
  | one s => set s
  | look _ => (stateBytes, stateBytes)
  | cat a b => add (bytesWith set a) (bytesWith set b)
  | alt a b =>
    -- Branches in a row leave from one state, so a further branch costs one way out only.
    let fork := match b with
      | alt _ _ => branchBytes
      | _ => 2 * stateBytes + 2 * branchBytes
    add (both fork) (add (bytesWith set a) (bytesWith set b))
  | group _ a => add (2 * stateBytes, 0) (bytesWith set a)
  | rep min max _ a =>
    let once := bytesWith set a
    let fork := stateBytes + 2 * branchBytes
    match min, max with
    | 0, none => add once (both (if a.nullable then 2 * fork + stateBytes else fork))
    | n, none => add (times n once) (both fork)
    | n, some m =>
      if m ≤ n then times n once
      else add (times n once)
        (add (times (m - n) (add once (both fork))) (both stateBytes))
where
  /-- The same in both directions. -/
  both (n : Nat) : Nat × Nat := (n, n)
  /-- One after the other. -/
  add (a b : Nat × Nat) : Nat × Nat := (a.1 + b.1, a.2 + b.2)
  /-- As many copies. -/
  times (n : Nat) (a : Nat × Nat) : Nat × Nat := (n * a.1, n * a.2)

/-- The room of an expression, forwards and backwards. -/
def bytes (e : Expr) : Nat × Nat := e.bytesWith CharSet.bytes

/-- Whether the automata of the expression keep within the limit, with the states that
find the start of a match and note its end. -/
def withinLimit (e : Expr) : Bool :=
  let (forwards, backwards) := e.bytes
  forwards + 208 ≤ sizeLimit && backwards + 144 ≤ sizeLimit

end Expr

end CodeMarkup.Regex
