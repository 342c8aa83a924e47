import CodeMarkup.Regex.Brackets
import CodeMarkup.Regex.Size

/-!
# Reading a pattern

The expression that a pattern writes (`CodeMarkup.Regex.Expr.parse`). The groups
that are open are kept in a list, innermost first, each with the alternatives and
the factors read in it so far, so the reader is a loop over the pattern that takes
at least one character in every round.

Flags hold from where they are set to the end of the group, over the alternatives
in between.
-/

namespace CodeMarkup.Regex

/-- What has been read at one place of a pattern. -/
structure Item where
  /-- The expression. -/
  expr : Expr
  /-- How many groups, repetitions, classes, alternations and sequences are nested in it. -/
  depth : Nat
  /-- Whether it can be repeated; flags and nothing cannot. -/
  repeatable : Bool

/-- A group that is open, with what has been read in it. -/
structure OpenGroup where
  /-- The number of the group, if it has one. -/
  number : Option Nat
  /-- The flags in force behind the group. -/
  outer : Flags
  /-- The alternatives that are complete, the last one first. -/
  branches : List Item
  /-- The factors of the alternative that is not, the last one first. -/
  factors : List Item

namespace OpenGroup

/-- The depth of something that has the given parts, if there are several. -/
def depthOf : List Item → Nat
  | [] => 0
  | [a] => a.depth
  | items => items.foldl (fun d a => max d a.depth) 0 + 1

/-- The alternative that is not complete, as it stands. -/
def branch (g : OpenGroup) : Item :=
  match g.factors with
  | [a] => a
  | as => ⟨.concat (as.reverse.map (·.expr)), depthOf as, false⟩

/-- All that has been read in the group. -/
def content (g : OpenGroup) : Item :=
  match g.branches with
  | [] => g.branch
  | bs =>
    let all := g.branch :: bs
    ⟨.alternate (all.reverse.map (·.expr)), depthOf all, true⟩

/-- The group with one factor more. -/
def add (a : Item) (g : OpenGroup) : OpenGroup := { g with factors := a :: g.factors }

/-- The group as an item, when it is closed. -/
def close (g : OpenGroup) : Item :=
  let content := g.content
  let expr := match g.number with
    | some i => .group i content.expr
    | none => content.expr
  ⟨expr, content.depth + 1, true⟩

end OpenGroup

/-- How deeply a pattern may be nested. -/
def nestLimit : Nat := 250

/-- Where the reader of a pattern is. -/
structure ReaderState where
  /-- The flags in force. -/
  flags : Flags
  /-- How many groups with a number have been opened. -/
  groupCount : Nat
  /-- The names of groups so far. -/
  names : List String
  /-- The groups around the innermost one. -/
  outer : List OpenGroup
  /-- The innermost group that is open, or the pattern itself. -/
  group : OpenGroup

namespace ReaderState

/-- Before the first character of a pattern. -/
def init : ReaderState :=
  { flags := {}, groupCount := 0, names := [], outer := [], group := ⟨none, {}, [], []⟩ }

/-- The state with one factor more. -/
def add (a : Item) (st : ReaderState) : ReaderState := { st with group := st.group.add a }

/-- The state with a new group, in which `flags` are in force. -/
def openGroup (number : Option Nat) (flags : Flags) (st : ReaderState) : ReaderState :=
  { st with
    flags
    outer := st.group :: st.outer
    group := ⟨number, st.flags, [], []⟩ }

/-- The state with a new group that has the next number. -/
def openNumbered (st : ReaderState) : ReaderState :=
  { st.openGroup (some (st.groupCount + 1)) st.flags with groupCount := st.groupCount + 1 }

/-! ### Repetitions -/

/-- The state with its last factor repeated. -/
def repeatLast (min : Nat) (max : Option Nat) (lazy : Bool) (st : ReaderState) :
    Except PatternError ReaderState :=
  match st.group.factors with
  | a :: factors =>
    if a.repeatable then
      -- Eager if neither the question mark nor the flag asks for the contrary, or both do.
      let greedy := lazy == st.flags.swapGreed
      let item : Item := ⟨.repeated min max greedy a.expr, a.depth + 1, true⟩
      .ok { st with group := { st.group with factors := item :: factors } }
    else .error .nothingToRepeat
  | [] => .error .nothingToRepeat

/-- A question mark that makes a repetition lazy, if there is one. -/
def readLazy : Text → Bool × Text
  | '?' :: t => (true, t)
  | t => (false, t)

/-- The bounds of a repetition, behind the opening brace. -/
def readBounds (f : Flags) (t : Text) : Except PatternError ((Nat × Option Nat) × Text) := do
  let t := skipBlanks f t
  if t.isEmpty then throw .badCount
  let (min, t) ← readDecimal f t
  let (max, t) ←
    match t with
    | ',' :: t =>
      match skipBlanks f t with
      | [] => throw .badCount
      | '\x7d' :: rest => pure (none, '\x7d' :: rest)
      | t => do
        let (n, rest) ← readDecimal f t
        pure (some n, rest)
    | t => pure (some min, t)
  match t with
  | '\x7d' :: rest => return ((min, max), skipBlanks f rest)
  | _ => throw .badCount

/-! ### Groups -/

/-- The name of a group up to the closing angle bracket. -/
def readName (first : Bool) : Text → Except PatternError (List Char × Text)
  | [] => .error .unexpectedEnd
  | c :: t =>
    if c = '>' then if first then .error .badGroupName else .ok ([], t)
    else if isNameChar first c then do
      let (cs, rest) ← readName false t
      return (c :: cs, rest)
    else .error .badGroupName

/-- Flags up to a colon or a closing parenthesis: whether there were any, the flags then
in force, the sign that ends them, and the rest. `seen` are the letters and the
minus so far. -/
def readFlags (seen : List Char) (f : Flags) :
    Text → Except PatternError ((Bool × Flags × Char) × Text)
  | [] => .error .unexpectedEnd
  | c :: t =>
    if c = ':' ∨ c = ')' then
      if seen.head? = some '-' then .error .badFlags else .ok ((!seen.isEmpty, f, c), t)
    else if seen.contains c then .error .badFlags
    else if c = '-' then readFlags (c :: seen) f t
    else
      match f.set? c (!seen.contains '-') with
      | some f => readFlags (c :: seen) f t
      | none => .error .badFlags

/-- Whether `start` begins the text. -/
def startsWith (start : String) (t : Text) : Bool := start.toList.isPrefixOf t

/-- The start of a group, behind the opening parenthesis. -/
def readGroup (st : ReaderState) (t : Text) : Except PatternError (ReaderState × Text) := do
  let t := skipBlanks st.flags t
  if ["?=", "?!", "?<=", "?<!"].any (startsWith · t) then throw .lookAround
  match t with
  | '?' :: 'P' :: '<' :: t | '?' :: '<' :: t =>
    let (name, rest) ← readName true t
    let name := String.ofList name
    if st.names.contains name then throw .duplicateGroupName
    return ({ st.openNumbered with names := name :: st.names }, rest)
  | '?' :: t =>
    let ((given, flags, sign), rest) ← readFlags [] st.flags t
    if sign = ':' then return (st.openGroup none flags, rest)
    if !given then throw .nothingToRepeat
    -- Flags without a colon open no group: they hold from here on.
    return ({ st with flags, group := st.group.add ⟨.empty, 0, false⟩ }, rest)
  | t => return (st.openNumbered, t)

/-- The end of a group. -/
def closeGroup (st : ReaderState) : Except PatternError ReaderState :=
  match st.outer with
  | [] => .error .unopenedGroup
  | g :: outer =>
    .ok { st with flags := st.group.outer, outer, group := g.add st.group.close }

/-! ### The pattern -/

/-- The expression of what stands at one place. -/
def exprOf (f : Flags) : Primitive → Expr
  | .char c => literal f c
  | .set s => .one s
  | .look a => .look a

/-- The state after the character `c` and what belongs to it, and the rest. -/
def step (st : ReaderState) (c : Char) (t : Text) : Except PatternError (ReaderState × Text) := do
  let f := st.flags
  match c with
  | '(' => st.readGroup t
  | ')' => return (← st.closeGroup, t)
  | '|' =>
    let g := st.group
    return ({ st with group := { g with branches := g.branch :: g.branches, factors := [] } }, t)
  | '[' =>
    let (n, rest) ← readBrackets f t
    return (st.add ⟨.one n.set, n.depth, true⟩, rest)
  | '?' =>
    let (lazy, rest) := readLazy t
    return (← st.repeatLast 0 (some 1) lazy, rest)
  | '*' =>
    let (lazy, rest) := readLazy t
    return (← st.repeatLast 0 none lazy, rest)
  | '+' =>
    let (lazy, rest) := readLazy t
    return (← st.repeatLast 1 none lazy, rest)
  | '\x7b' =>
    let ((min, max), rest) ← readBounds f t
    let (lazy, rest) := readLazy rest
    if max.any (· < min) then throw .countOrder
    return (← st.repeatLast min max lazy, rest)
  | '.' => return (st.add ⟨← dot f, 0, true⟩, t)
  | '^' =>
    let a : Look := if f.multiLine then (if f.crlf then .startLineCrlf else .startLine) else .start
    return (st.add ⟨.look a, 0, true⟩, t)
  | '$' =>
    let a : Look := if f.multiLine then (if f.crlf then .endLineCrlf else .endLine) else .stop
    return (st.add ⟨.look a, 0, true⟩, t)
  | '\\' =>
    let (a, rest) ← readEscape f t
    return (st.add ⟨exprOf f a, 0, true⟩, rest)
  | c => return (st.add ⟨literal f c, 0, true⟩, t)

/-- The state at the end of the pattern; `fuel` bounds the number of rounds. -/
def readAll : Nat → ReaderState → Text → Except PatternError ReaderState
  | 0, st, _ => .ok st
  | fuel + 1, st, t =>
    match skipBlanks st.flags t with
    | [] => .ok st
    | c :: rest => do
      let (st, rest) ← st.step c rest
      readAll fuel st rest

end ReaderState

namespace Expr

/-- The expression that a pattern writes, whatever its size. -/
def parse (pattern : Text) : Except PatternError Expr := do
  let st ← ReaderState.init.readAll (pattern.length + 1) pattern
  if !st.outer.isEmpty then throw .unclosedGroup
  let content := st.group.content
  if content.depth > nestLimit then throw .tooDeep
  return content.expr

/-- The expression that a pattern writes, if its size is within the limit. -/
def read (pattern : Text) : Except PatternError Expr := do
  let e ← parse pattern
  if e.withinLimit then return e else throw .tooLarge

end Expr

end CodeMarkup.Regex
