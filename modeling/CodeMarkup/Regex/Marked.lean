import CodeMarkup.Regex.Look
import CodeMarkup.Text

/-!
# Marked expressions

An expression is matched from the end of the text to its start. At every place of
the text each of its character sets carries a *mark*: the best way to go on once a
character has been taken there, if there is one. From the marks of one place, and
the character before it, come those of the place before
(`CodeMarkup.Regex.Marked.remark`), and at each place the best match that begins
there can be read off (`CodeMarkup.Regex.Marked.best`). So a text is passed over
once, whatever the expression, and both steps are recursions on the expression.

## Preference

What matches best is not the longest: the first branch of an alternation comes
before the second one, and an eager repetition tries another round before it goes
on, a lazy one after. A way through the expression that fails gives way to the
next one in this order.

## Standing still

A repetition whose body can match nothing could go round for ever at one place.
What stops it is a rule about *stations*, points of the expression that several
ways lead to: **at one place no station is passed twice**, for what could not be
reached from it the first time cannot be reached the second time. The stations
passed so far are kept in a list while the ways at one place are tried
(`CodeMarkup.Regex.Outcome`), and taking a character begins a new list. The
constructors `enter` and `join` are the stations, before and after an expression.
-/

namespace CodeMarkup.Regex

/-! ### Runs -/

/-- What a group takes. Its place is told by what is taken behind it. -/
structure Capture where
  /-- The number of the group. -/
  number : Nat
  /-- The text that the group takes. -/
  text : Text
  /-- The text that is taken behind the group. -/
  behind : Text
  deriving DecidableEq, Repr, Inhabited

/-- The group that takes `c` before all else. -/
def Capture.push (c : Char) (g : Capture) : Capture := { g with text := c :: g.text }

/-- One way through a part of an expression, from a place of the text on: the text it
takes, and what the groups on it take. Runs are put together from their ends, so
a group is first pending, from its end on, and closed when its start is met. -/
structure Run where
  /-- All the text that is taken. -/
  taken : Text
  /-- The groups whose ends have been met but not their starts, with the text in between. -/
  pending : List Capture
  /-- The groups that are complete. -/
  groups : List Capture
  deriving DecidableEq, Repr, Inhabited

namespace Run

/-- The run that takes nothing. -/
def nil : Run := ⟨[], [], []⟩

/-- The run that takes `c` before all else. -/
def push (c : Char) (r : Run) : Run :=
  { r with taken := c :: r.taken, pending := r.pending.map (Capture.push c) }

/-- The run met by the end of group `i`. A later round of the same group keeps its
text: **the last round counts**. -/
def openGroup (i : Nat) (r : Run) : Run :=
  if r.groups.any (·.number = i) then r else { r with pending := ⟨i, [], r.taken⟩ :: r.pending }

/-- The run met by the start of group `i`, which completes the group. -/
def closeGroup (i : Nat) (r : Run) : Run :=
  match r.pending.find? (·.number = i) with
  | some g => { r with pending := r.pending.filter (·.number ≠ i), groups := g :: r.groups }
  | none => r

/-- What group `i` takes, if the group took part. -/
def capture? (i : Nat) (r : Run) : Option Capture := r.groups.find? (·.number = i)

/-- The text of group `i`, if the group took part. -/
def group? (i : Nat) (r : Run) : Option Text := (r.capture? i).map (·.text)

@[simp] theorem taken_push (c : Char) (r : Run) : (r.push c).taken = c :: r.taken := rfl

@[simp] theorem taken_openGroup (i : Nat) (r : Run) : (r.openGroup i).taken = r.taken := by
  unfold openGroup; split <;> rfl

@[simp] theorem taken_closeGroup (i : Nat) (r : Run) : (r.closeGroup i).taken = r.taken := by
  unfold closeGroup; split <;> rfl

end Run

/-! ### Outcomes -/

/-- What trying the ways at one place comes to: the first run that arrives, or the
stations passed in vain. -/
inductive Outcome where
  /-- A run arrives. -/
  | found (r : Run)
  /-- No run arrives; `passed` are the stations passed at this place. -/
  | failed (passed : List Nat)
  deriving DecidableEq, Repr, Inhabited

/-- What there is to try, given the stations passed so far. -/
abbrev Attempt := List Nat → Outcome

namespace Outcome

/-- The first outcome, or else what `next` comes to after it. -/
def orElse : Outcome → Attempt → Outcome
  | found r, _ => found r
  | failed passed, next => next passed

/-- The outcome with its run changed by `f`. -/
def map (f : Run → Run) : Outcome → Outcome
  | found r => found (f r)
  | failed passed => failed passed

/-- The run that arrives. -/
def run? : Outcome → Option Run
  | found r => some r
  | failed _ => none

@[simp] theorem orElse_found (r : Run) (next : Attempt) : (found r).orElse next = found r := rfl

@[simp] theorem orElse_failed (passed : List Nat) (next : Attempt) :
    (failed passed).orElse next = next passed := rfl

@[simp] theorem run?_found (r : Run) : (found r).run? = some r := rfl

@[simp] theorem run?_failed (passed : List Nat) : (failed passed).run? = none := rfl

@[simp] theorem run?_map (f : Run → Run) (o : Outcome) : (o.map f).run? = o.run?.map f := by
  cases o <;> rfl

end Outcome

namespace Attempt

/-- Nothing to try. -/
def fail : Attempt := .failed

/-- To have arrived. -/
def arrive : Attempt := fun _ => .found .nil

/-- `next` behind the station `l`, which is passed once. -/
def station (l : Nat) (next : Attempt) : Attempt :=
  fun passed => if passed.contains l then .failed passed else next (l :: passed)

/-- The first attempt, and if it fails the second one. -/
def or (first second : Attempt) : Attempt := fun passed => (first passed).orElse second

/-- The attempt with its run changed by `f`. -/
def map (f : Run → Run) (next : Attempt) : Attempt := fun passed => (next passed).map f

end Attempt

/-! ### Expressions with marks -/

/-- A regular expression whose character sets carry marks. -/
inductive Marked where
  /-- Takes nothing. -/
  | empty
  /-- Takes nothing, where the assertion holds. -/
  | look (a : Look)
  /-- Takes one character of the set; `mark` is the best run from behind it. -/
  | one (s : CharSet) (mark : Option Run)
  /-- One after the other. -/
  | cat (a b : Marked)
  /-- The first, or else the second. -/
  | alt (a b : Marked)
  /-- A group with a number. -/
  | group (i : Nat) (a : Marked)
  /-- The expression behind a station. -/
  | enter (l : Nat) (a : Marked)
  /-- The expression with a station behind it. -/
  | join (l : Nat) (a : Marked)
  /-- The expression, one or more times. -/
  | plus (greedy : Bool) (a : Marked)
  deriving DecidableEq, Repr, Inhabited

namespace Marked

/-- What follows a round of a repetition: another round or the rest, an eager
repetition preferring the former. A further round that takes nothing is over
before it gets here, so nothing follows `round`. -/
def again (greedy : Bool) (round rest : Attempt) : Attempt :=
  if greedy then round.or rest else rest.or round

/-- The best way through the expression from the place `p`, followed by `rest`. -/
def best (p : Place) : Marked → Attempt → Attempt
  | empty, rest => rest
  | look a, rest => if a.holds p then rest else .fail
  | one s mark, _ =>
    -- What follows is not tried at this place: the mark tells how it goes on at the next one.
    match p.next, mark with
    | some c, some r => if s.contains c then fun _ => .found (r.push c) else .fail
    | _, _ => .fail
  | cat a b, rest => a.best p (b.best p rest)
  | alt a b, rest => (a.best p rest).or (b.best p rest)
  | group i a, rest => (a.best p (rest.map (Run.openGroup i))).map (Run.closeGroup i)
  | enter l a, rest => .station l (a.best p rest)
  | join l a, rest => a.best p (.station l rest)
  | plus greedy a, rest => a.best p (again greedy (a.best p .fail) rest)

/-- The expression with the marks for the place `p`, given that `rest` follows it: each
set is marked with the best run from behind it. -/
def remark (p : Place) : Marked → Attempt → Marked
  | empty, _ => empty
  | look a, _ => look a
  -- Taking a character begins a new list of stations.
  | one s _, rest => one s (rest []).run?
  | cat a b, rest => cat (a.remark p (b.best p rest)) (b.remark p rest)
  | alt a b, rest => alt (a.remark p rest) (b.remark p rest)
  | group i a, rest => group i (a.remark p (rest.map (Run.openGroup i)))
  | enter l a, rest => enter l (a.remark p rest)
  | join l a, rest => join l (a.remark p (.station l rest))
  | plus greedy a, rest => plus greedy (a.remark p (again greedy (a.best p .fail) rest))

/-! ### Passing over a text -/

/-- The best match that begins at the place `p`, from the marks of the place after it. -/
def here (m : Marked) (p : Place) : Option Run := (m.best p .arrive []).run?

/-- The characters of a text, each with the best match that begins with it, and the
marks for its start; `prev` precedes the text. -/
def sweep (m : Marked) : Option Char → Text → List (Char × Option Run) × Marked
  | prev, [] => ([], m.remark ⟨prev, none⟩ .arrive)
  | prev, c :: t =>
    let (rows, marked) := m.sweep (some c) t
    let p : Place := ⟨prev, some c⟩
    ((c, marked.here p) :: rows, marked.remark p .arrive)

end Marked

end CodeMarkup.Regex
