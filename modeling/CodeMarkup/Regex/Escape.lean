import CodeMarkup.Regex.Syntax

/-!
# Backslashes in patterns

What a backslash and the characters behind it stand for
(`CodeMarkup.Regex.readEscape`): a character, a set of characters or an assertion.
Each reader takes the rest of the pattern and gives what it has read with what is
left of it.

In a verbose pattern blanks are skipped (`CodeMarkup.Regex.skipBlanks`), inside of
escapes too.
-/

namespace CodeMarkup.Regex

/-! ### Blanks -/

/-- A text without the white space and the comments it begins with. With `inComment`,
it begins inside of a comment. -/
def dropBlanks (inComment : Bool) : Text → Text
  | [] => []
  | c :: t =>
    if inComment then dropBlanks (c ≠ '\n') t
    else if Unicode.isWhiteSpace c then dropBlanks false t
    else if c = '#' then dropBlanks true t
    else c :: t

/-- A verbose pattern from the next character on that counts. -/
def skipBlanks (f : Flags) (t : Text) : Text := if f.verbose then dropBlanks false t else t

/-! ### Numbers -/

/-- The digits that a text begins with, and the rest, blanks being skipped. -/
def readDigits (f : Flags) : Nat → Text → List Char × Text
  | 0, t => ([], t)
  | fuel + 1, t =>
    match t with
    | c :: rest =>
      if c.isDigit then
        let (digits, rest) := readDigits f fuel (skipBlanks f rest)
        (c :: digits, rest)
      else ([], t)
    | [] => ([], [])

/-- A decimal number of 32 bits, with white space around it. -/
def readDecimal (f : Flags) (t : Text) : Except PatternError (Nat × Text) := do
  let t := t.dropWhile Unicode.isWhiteSpace
  let (digits, rest) := readDigits f t.length t
  if digits.isEmpty then throw .badCount
  let n := digits.foldl (fun n c => 10 * n + (c.toNat - '0'.toNat)) 0
  if n ≥ 0x100000000 then throw .numberTooLarge
  return (n, rest.dropWhile Unicode.isWhiteSpace)

/-- As many hexadecimal digits as asked for, after those of the value `n`. -/
def readHexDigits (f : Flags) : Nat → Nat → Text → Except PatternError (Nat × Text)
  | 0, n, t => .ok (n, t)
  | count + 1, n, t =>
    match t with
    | [] => .error .unexpectedEnd
    | c :: rest =>
      match hexDigit? c with
      | some d => readHexDigits f count (16 * n + d) (skipBlanks f rest)
      | none => .error .badHex

/-- The characters up to a closing brace, which is left out, and the rest behind it. -/
def readBraced (f : Flags) : Nat → Text → Except PatternError (List Char × Text)
  | 0, _ => .error .unexpectedEnd
  | fuel + 1, t =>
    match skipBlanks f t with
    | [] => .error .unexpectedEnd
    | c :: rest =>
      if c = '\x7d' then .ok ([], rest)
      else do
        let (cs, rest) ← readBraced f fuel rest
        return (c :: cs, rest)

/-- A character written in hexadecimal digits: `count` of them, or any number of them
between braces. -/
def readHex (f : Flags) (count : Nat) (t : Text) : Except PatternError (Char × Text) := do
  match skipBlanks f t with
  | [] => throw .unexpectedEnd
  | '\x7b' :: t =>
    let (digits, rest) ← readBraced f (t.length + 1) t
    if digits.isEmpty then throw .badHex
    let value ← digits.foldlM (fun n c => ((hexDigit? c).map (16 * n + ·)).elim (throw .badHex) pure) 0
    match charOfNat? value with
    | some c => return (c, skipBlanks f rest)
    | none => throw .badHex
  | t =>
    let (value, rest) ← readHexDigits f count 0 t
    match charOfNat? value with
    | some c => return (c, rest)
    | none => throw .badHex

/-! ### Properties -/

/-- A text cut at the first place where `sep` stands. -/
def cutAt? (sep : Text) : Text → Option (Text × Text)
  | [] => none
  | c :: t =>
    if sep.isPrefixOf (c :: t) then some ([], (c :: t).drop sep.length)
    else (cutAt? sep t).map fun (a, b) => (c :: a, b)

/-- The property that the text between the braces means, and whether it is denied. -/
def propertyOfText? (body : Text) : Option (Unicode.CharProperty × Bool) :=
  let pair (denied : Bool) : Text × Text → Option (Unicode.CharProperty × Bool) := fun (name, value) =>
    (Unicode.CharProperty.ofNameAndValue? (String.ofList name) (String.ofList value)).map (·, denied)
  match cutAt? ['!', '='] body with
  | some parts => pair true parts
  | none =>
    match cutAt? [':'] body with
    | some parts => pair false parts
    | none =>
      match cutAt? ['='] body with
      | some parts => pair false parts
      | none => (Unicode.CharProperty.ofName? (String.ofList body)).map (·, false)

/-- The set of a property, whose name follows: one letter, or more between braces. -/
def readProperty (f : Flags) (negated : Bool) (t : Text) : Except PatternError (CharSet × Text) := do
  let (body, rest) ←
    match skipBlanks f t with
    | [] => throw .unexpectedEnd
    | '\x7b' :: t => readBraced f (t.length + 1) t
    | '\\' :: _ => throw .unknownProperty
    | c :: t => pure ([c], skipBlanks f t)
  if !f.unicode then throw .beyondAscii
  match propertyOfText? body with
  | none => throw .unknownProperty
  | some (p, denied) => return (← finishClass f (negated != denied) (.property p), rest)

/-! ### Escapes -/

/-- What stands at one place of a pattern. -/
inductive Primitive where
  /-- A character that stands for itself. -/
  | char (c : Char)
  /-- A set of characters. -/
  | set (s : CharSet)
  /-- An assertion. -/
  | look (a : Look)

/-- The kind of boundary that is named between braces behind `\b`, if one is; a brace
before anything but a letter or a hyphen begins a repetition. -/
def readBoundary (f : Flags) (t : Text) : Except PatternError (Option Look × Text) := do
  let isName (c : Char) : Bool := c.isAlpha || c = '-'
  match t with
  | '\x7b' :: inner =>
    match skipBlanks f inner with
    | [] => throw .unexpectedEnd
    | c :: _ =>
      if !isName c then return (none, t)
      let (name, rest) ← readBraced f (inner.length + 1) inner
      if !name.all isName then throw .badBoundary
      match String.ofList name with
      | "start" => return (some (.wordStart !f.unicode), rest)
      | "end" => return (some (.wordEnd !f.unicode), rest)
      | "start-half" => return (some (.wordStartHalf !f.unicode), rest)
      | "end-half" => return (some (.wordEndHalf !f.unicode), rest)
      | _ => throw .badBoundary
  | _ => return (none, t)

/-- What the characters behind a backslash stand for. -/
def readEscape (f : Flags) : Text → Except PatternError (Primitive × Text)
  | [] => .error .unexpectedEnd
  | c :: t => do
    if c.isDigit then throw .backreference
    if c = 'x' then
      let fixed := (skipBlanks f t).head? ≠ some '\x7b'
      let (d, rest) ← readHex f 2 t
      if fixed && !f.unicode && d.toNat ≥ 128 then throw .beyondAscii
      return (.char d, rest)
    if c = 'u' then
      let (d, rest) ← readHex f 4 t
      return (.char d, rest)
    if c = 'U' then
      let (d, rest) ← readHex f 8 t
      return (.char d, rest)
    if c = 'p' ∨ c = 'P' then
      let (s, rest) ← readProperty f (c = 'P') t
      return (.set s, rest)
    match perlClass? f c with
    | some s => return (.set (← s), t)
    | none =>
      if isEscapable c then return (.char c, t)
      match controlEscape? c with
      | some d => return (.char d, t)
      | none =>
        match c with
        | 'A' => return (.look .start, t)
        | 'z' => return (.look .stop, t)
        | 'b' =>
          let (named, rest) ← readBoundary f t
          return (.look (named.getD (.boundary !f.unicode)), rest)
        | 'B' => return (.look (.noBoundary !f.unicode), t)
        | '<' => return (.look (.wordStart !f.unicode), t)
        | '>' => return (.look (.wordEnd !f.unicode), t)
        | _ => throw .badEscape

end CodeMarkup.Regex
