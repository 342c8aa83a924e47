import CodeMarkup.Regex.Escape

/-!
# Bracketed classes

A set between square brackets (`CodeMarkup.Regex.readBrackets`): characters,
ranges, named classes and further brackets, which together form a union, and the
operations `&&`, `--` and `~~` between unions, all of one strength and taken from
left to right. The brackets that are open are kept in a list, innermost first, so
the reader is a loop over the pattern.
-/

namespace CodeMarkup.Regex

/-- A set together with how deeply it is nested. -/
structure Nested where
  /-- The set. -/
  set : CharSet
  /-- How many brackets, unions and operations lie above its innermost member. -/
  depth : Nat

/-- An operation between two sets. -/
inductive SetOp where
  /-- The members of both. -/
  | inter
  /-- The members of the first that are not in the second. -/
  | diff
  /-- The members of exactly one. -/
  | symmDiff

/-- The set that an operation makes of two sets. -/
def SetOp.apply : SetOp → CharSet → CharSet → CharSet
  | inter => .inter
  | diff => .diff
  | symmDiff => .symmDiff

/-- An open bracket, with what has been read in it. -/
structure Bracket where
  /-- Whether the set is complemented. -/
  negated : Bool
  /-- What stands to the left of the last operation, if there is one. -/
  pending : Option (Nested × SetOp)
  /-- The members behind the last operation, the last one first. -/
  members : List Nested

namespace Bracket

/-- The members as one set. -/
def union (b : Bracket) : Nested :=
  match b.members with
  | [] => ⟨.empty, 0⟩
  | [n] => n
  | ns => ⟨.unionAll (ns.reverse.map (·.set)), ns.foldl (fun d n => max d n.depth) 0 + 1⟩

/-- The set up to here: the members, after the operation that waits for them. -/
def value (f : Flags) (b : Bracket) : Nested :=
  let right := b.union
  match b.pending with
  | none => right
  | some (left, op) =>
    ⟨op.apply (left.set.folded f) (right.set.folded f), max left.depth right.depth + 1⟩

/-- The bracket with one member more. -/
def add (n : Nested) (b : Bracket) : Bracket := { b with members := n :: b.members }

/-- The bracket with an operation behind what has been read. -/
def operate (f : Flags) (op : SetOp) (b : Bracket) : Bracket :=
  { b with pending := some (b.value f, op), members := [] }

/-- The set of a bracket that is closed. -/
def close (f : Flags) (b : Bracket) : Except PatternError Nested := do
  let n := b.value f
  return ⟨← finishClass f b.negated n.set, n.depth + 1⟩

end Bracket

/-! ### Members -/

/-- What stands for one character, or for a set, in a bracket. -/
def readMember (f : Flags) : Text → Except PatternError (Primitive × Text)
  | [] => .error .unclosedClass
  | '\\' :: t => readEscape f t
  | c :: t => .ok (.char c, t)

/-- A character as an end of a range. With Unicode switched off it is below 128. -/
def rangeEnd (f : Flags) : Primitive → Except PatternError Char
  | .char c => if f.unicode || c.toNat < 128 then .ok c else .error .beyondAscii
  | _ => .error .badClassItem

/-- A member that is no range. -/
def memberSet (f : Flags) : Primitive → Except PatternError CharSet
  | .char c => return .single (← rangeEnd f (.char c))
  | .set s => .ok s
  | .look _ => .error .badClassItem

/-- The character behind a hyphen that decides whether it makes a range. In a verbose
pattern it is found behind white space, and behind one number sign. -/
def peekBehind (f : Flags) (t : Text) : Option Char :=
  if f.verbose then
    let t' := match t.dropWhile Unicode.isWhiteSpace with
      | '#' :: rest => rest.dropWhile Unicode.isWhiteSpace
      | rest => rest
    t'.head?.or t.head?
  else t.head?

/-- A member or a range of a bracket. A hyphen before a closing bracket or before
another hyphen makes no range. -/
def readRange (f : Flags) (t : Text) : Except PatternError (CharSet × Text) := do
  let (first, rest) ← readMember f t
  match skipBlanks f rest with
  | [] => throw .unclosedClass
  | '-' :: behind =>
    let next := peekBehind f behind
    if next = some ']' ∨ next = some '-' then return (← memberSet f first, '-' :: behind)
    match skipBlanks f behind with
    | [] => throw .unclosedClass
    | t =>
      let (second, rest) ← readMember f t
      let lo ← rangeEnd f first
      let hi ← rangeEnd f second
      if hi < lo then throw .rangeOrder
      return (.range lo hi, rest)
  | rest => return (← memberSet f first, rest)

/-- A class with a name between colons, whose opening bracket has been read. -/
def readPosix? (f : Flags) (t : Text) : Option (Except PatternError (CharSet × Text)) :=
  match t with
  | ':' :: t =>
    let (negated, t) := match t with
      | '^' :: t => (true, t)
      | t => (false, t)
    match t.dropWhile (· ≠ ':') with
    | ':' :: ']' :: rest =>
      (CharSet.posix? (String.ofList (t.takeWhile (· ≠ ':')))).map fun s =>
        (finishClass f negated s).map (·, rest)
    | _ => none
  | _ => none

/-! ### Brackets -/

/-- The hyphens at the start of a bracket, which stand for themselves. -/
def readHyphens (f : Flags) : Nat → Text → Nat × Text
  | 0, t => (0, t)
  | fuel + 1, t =>
    match t with
    | '-' :: rest =>
      let (n, rest) := readHyphens f fuel (skipBlanks f rest)
      (n + 1, rest)
    | _ => (0, t)

/-- The start of a bracket, behind its opening sign. Leading hyphens stand for
themselves, and so does a closing bracket as the first member. -/
def openBracket (f : Flags) (t : Text) : Except PatternError (Bracket × Text) := do
  let t := skipBlanks f t
  let (negated, t) := match t with
    | '^' :: rest => (true, skipBlanks f rest)
    | _ => (false, t)
  let (hyphens, t) := readHyphens f t.length t
  let (members, t) : List Nested × Text := match hyphens, t with
    | 0, ']' :: rest => ([⟨.single ']', 0⟩], skipBlanks f rest)
    | n, t => (List.replicate n ⟨.single '-', 0⟩, t)
  if t.isEmpty then throw PatternError.unclosedClass
  return ({ negated, pending := none, members }, t)

/-- The rest of a bracket, with the brackets around it in `outer`; `fuel` bounds the
number of members. -/
def readMembers (f : Flags) :
    Nat → List Bracket → Bracket → Text → Except PatternError (Nested × Text)
  | 0, _, _, _ => .error .unclosedClass
  | fuel + 1, outer, b, t =>
    match skipBlanks f t with
    | [] => .error .unclosedClass
    | '[' :: rest =>
      match readPosix? f rest with
      | some read => do
        let (s, rest) ← read
        readMembers f fuel outer (b.add ⟨s, 0⟩) rest
      | none => do
        let (inner, rest) ← openBracket f rest
        readMembers f fuel (b :: outer) inner rest
    | ']' :: rest => do
      let n ← b.close f
      match outer with
      | [] => return (n, rest)
      | b :: outer => readMembers f fuel outer (b.add n) rest
    | '&' :: '&' :: rest => readMembers f fuel outer (b.operate f .inter) rest
    | '-' :: '-' :: rest => readMembers f fuel outer (b.operate f .diff) rest
    | '~' :: '~' :: rest => readMembers f fuel outer (b.operate f .symmDiff) rest
    | t => do
      let (s, rest) ← readRange f t
      readMembers f fuel outer (b.add ⟨s, 0⟩) rest

/-- A bracketed class, behind its opening sign. -/
def readBrackets (f : Flags) (t : Text) : Except PatternError (Nested × Text) := do
  let (b, t) ← openBracket f t
  readMembers f (t.length + 1) [] b t

end CodeMarkup.Regex
