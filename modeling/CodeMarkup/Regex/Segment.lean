import CodeMarkup.Regex.Reader

/-!
# Cutting a text at the matches of an expression

A compiled expression (`CodeMarkup.Regex`) cuts a text into *segments*: its matches,
and the gaps between them (`CodeMarkup.Regex.segments`). From left to right, a match
is taken at the first place where the best match takes something, and the search
goes on behind it. A match that takes nothing is no match here: the character
behind it belongs to the gap.

The segments spell out the text (`CodeMarkup.Regex.Segment.text`), no gap is empty,
and no two gaps are neighbours. So the place of a segment is told by the segments before
it (`CodeMarkup.Regex.Segment.placed`), and a match is given with the text that has been
searched and its place there (`CodeMarkup.Regex.Match`).
-/

namespace CodeMarkup

/-- A pattern together with the expression that it writes. -/
structure Regex where
  /-- The pattern. -/
  source : String
  /-- The expression, without marks. -/
  body : Regex.Marked
  deriving DecidableEq, Repr

namespace Regex

/-- Reads a pattern. -/
def compile (source : String) : Except PatternError Regex :=
  (Expr.read source.toList).map fun e => ⟨source, e.toMarked⟩

/-- A part of a text that is cut at matches. -/
inductive Segment where
  /-- Text that lies between matches. -/
  | gap (t : Text)
  /-- A match. -/
  | hit (r : Run)
  deriving DecidableEq, Repr

namespace Segment

/-- The text that a segment covers. -/
def text : Segment → Text
  | gap t => t
  | hit r => r.taken

/-- The segments with `c` before them, in the gap at their start. -/
def consGap (c : Char) : List Segment → List Segment
  | gap t :: ss => gap (c :: t) :: ss
  | ss => gap [c] :: ss

/-- The segments of a text whose characters are given with the best matches that begin
with them; the first `skip` characters belong to a match already. -/
def ofRows : Nat → List (Char × Option Run) → List Segment
  | _, [] => []
  | skip + 1, _ :: rows => ofRows skip rows
  | 0, (c, r) :: rows =>
    match r with
    | some r =>
      -- The best match takes nothing, although another one here might take something.
      if r.taken.isEmpty then consGap c (ofRows 0 rows)
      else hit r :: ofRows (r.taken.length - 1) rows
    | none => consGap c (ofRows 0 rows)

/-- The segments, each with the number of characters before it; before the first one there
are `n`. -/
def placed : Nat → List Segment → List (Nat × Segment)
  | _, [] => []
  | n, s :: ss => (n, s) :: placed (n + s.text.length) ss

end Segment

/-- A match in a text that has been searched. -/
structure Match where
  /-- The text. -/
  text : Text
  /-- The number of characters before the match. -/
  start : Nat
  /-- What the match and its groups take. -/
  run : Run
  deriving DecidableEq, Repr

/-- What group `i` of a match takes, if the group took part, with the number of characters
of the text before it. -/
def Match.groupAt? (i : Nat) (m : Match) : Option (Nat × Text) :=
  (m.run.capture? i).map fun g =>
    (m.start + m.run.taken.length - (g.text ++ g.behind).length, g.text)

/-- The matches of the expression in a text and the gaps between them, in order. -/
def segments (r : Regex) (t : Text) : List Segment :=
  Segment.ofRows 0 (r.body.sweep none t).1

end Regex

end CodeMarkup
