import CodeMarkup.Numeral
import CodeMarkup.Scanner

/-!
# Strings and keys in TOML

A string has four forms (`CodeMarkup.Toml.Form`). The basic ones stand between double
quotes and know escapes, the literal ones stand between single quotes and do not. Both
have a variant over several lines, between three quotes, in which quotes may stand as
long as there are no three of them in a row, and in which a line feed right behind the
opening quotes does not count.

A text is written in the first form that has no need for escapes
(`CodeMarkup.Toml.form`), and otherwise in a basic one. A key is written bare if its
characters allow it.
-/

namespace CodeMarkup.Toml

/-! ### Characters -/

/-- A control character that no string may have as it is. The tab is none. -/
def isControl (c : Char) : Bool := (c < ' ' && c ≠ '\t') || c = '\x7f'

/-- A control character other than the line feed. -/
def isHiddenControl (c : Char) : Bool := isControl c && c ≠ '\n'

/-- A character of bare keys. -/
def isBareKeyChar (c : Char) : Bool := c.isAlphanum || c = '-' || c = '_'

/-- Whether a quote stands three times in a row. -/
def hasTriple (quote : Char) : Text → Bool
  | [] => false
  | c :: t => [quote, quote, quote].isPrefixOf (c :: t) || hasTriple quote t

/-! ### Writing -/

/-- What is written for a character between double quotes on one line. -/
def escapeChar (c : Char) : Text :=
  match c with
  | '"' => ['\\', '"']
  | '\\' => ['\\', '\\']
  | '\x08' => ['\\', 'b']
  | '\t' => ['\\', 't']
  | '\n' => ['\\', 'n']
  | '\x0c' => ['\\', 'f']
  | '\r' => ['\\', 'r']
  | c =>
    if isControl c then
      ['\\', 'u', '0', '0', (Nat.digitChar (c.toNat / 16)).toUpper,
        (Nat.digitChar (c.toNat % 16)).toUpper]
    else [c]

/-- What is written between three double quotes, behind so many quotes in a row. The third
one in a row is escaped. -/
def escapeLines (quotes : Nat) : Text → Text
  | [] => []
  | c :: t =>
    if c = '"' then
      if quotes = 2 then '\\' :: '"' :: escapeLines 0 t else '"' :: escapeLines (quotes + 1) t
    else if c = '\n' then '\n' :: escapeLines 0 t
    else escapeChar c ++ escapeLines 0 t

/-- The forms of a string. -/
inductive Form where
  /-- Between double quotes. -/
  | basic
  /-- Between single quotes. -/
  | literal
  /-- Between three double quotes. -/
  | basicLines
  /-- Between three single quotes. -/
  | literalLines
  deriving DecidableEq, Repr

/-- The form in which a text is written. -/
def form (t : Text) : Form :=
  let plain := !t.any isHiddenControl
  if plain && !t.contains '\\' && !t.contains '"' && !t.contains '\n' then .basic
  else if plain && !t.contains '\'' && !t.contains '\n' then .literal
  else if plain && !t.contains '\\' && !hasTriple '"' t then .basicLines
  else if plain && !hasTriple '\'' t then .literalLines
  else if t.contains '\n' then .basicLines
  else .basic

/-- The line feed behind the opening quotes of a text with lines. -/
def leadIn (t : Text) : Text := if t.contains '\n' then ['\n'] else []

/-- A text in some form. -/
def writeIn : Form → Text → Text
  | .basic, t => '"' :: t.flatMap escapeChar ++ ['"']
  | .literal, t => '\'' :: t ++ ['\'']
  | .basicLines, t => ['"', '"', '"'] ++ leadIn t ++ escapeLines 0 t ++ ['"', '"', '"']
  | .literalLines, t => ['\'', '\'', '\''] ++ leadIn t ++ t ++ ['\'', '\'', '\'']

/-- A text as a string. -/
def writeString (t : Text) : Text := writeIn (form t) t

/-- A text as a key. -/
def writeKey (t : Text) : Text :=
  let plain := !t.any isControl
  if !t.isEmpty && t.all isBareKeyChar then t
  else if plain && !t.contains '\\' && !t.contains '"' then writeIn .basic t
  else if plain && !t.contains '\'' then writeIn .literal t
  else writeIn .basic t

/-! ### Reading -/

/-- The character that a letter after a backslash stands for. -/
def escape? : Char → Option Char
  | 'b' => some '\x08'
  | 't' => some '\t'
  | 'n' => some '\n'
  | 'f' => some '\x0c'
  | 'r' => some '\r'
  | '"' => some '"'
  | '\\' => some '\\'
  | _ => none

/-- The character that hexadecimal digits stand for. -/
def unicode? (digits : Text) : Option Char := (readDigits? 16 0 digits).bind charOfNat?

/-- What has been read, behind a character. -/
def push? (c : Option Char) (found : Option (Text × Text)) : Option (Text × Text) :=
  match c, found with
  | some c, some (t, r) => some (c :: t, r)
  | _, _ => none

/-- What stands before a double quote, and what stands behind it. -/
def basic? : Text → Option (Text × Text)
  | [] => none
  | '"' :: t => some ([], t)
  | '\\' :: 'u' :: a :: b :: c :: d :: t => push? (unicode? [a, b, c, d]) (basic? t)
  | '\\' :: 'U' :: a :: b :: c :: d :: e :: f :: g :: h :: t =>
    push? (unicode? [a, b, c, d, e, f, g, h]) (basic? t)
  | '\\' :: c :: t => push? (escape? c) (basic? t)
  | c :: t => if isControl c ∨ c = '\\' then none else push? (some c) (basic? t)

/-- What stands before a single quote, and what stands behind it. -/
def literal? : Text → Option (Text × Text)
  | [] => none
  | '\'' :: t => some ([], t)
  | c :: t => if isControl c then none else push? (some c) (literal? t)

/-- Where a reader of lines is. -/
inductive Place where
  /-- Among the characters of the string. -/
  | within
  /-- Behind a backslash at the end of a line, which is to come. -/
  | lineEnd
  /-- Behind a backslash at the end of a line, on a later line. -/
  | lineStart
  deriving DecidableEq, Repr

/-- What stands before three double quotes, and what stands behind them. A backslash at the
end of a line takes away the white space up to the next character that is none. -/
def basicLines? : Place → Text → Option (Text × Text)
  | _, [] => none
  | .lineEnd, c :: t =>
    if c = ' ' ∨ c = '\t' then basicLines? .lineEnd t
    else if c = '\n' then basicLines? .lineStart t
    else
      match c, t with
      | '\r', '\n' :: t => basicLines? .lineStart t
      | _, _ => none
  | .lineStart, ' ' :: t => basicLines? .lineStart t
  | .lineStart, '\t' :: t => basicLines? .lineStart t
  | .lineStart, '\n' :: t => basicLines? .lineStart t
  | .lineStart, '\r' :: '\n' :: t => basicLines? .lineStart t
  | _, '"' :: '"' :: '"' :: '"' :: '"' :: t => some (['"', '"'], t)
  | _, '"' :: '"' :: '"' :: '"' :: t => some (['"'], t)
  | _, '"' :: '"' :: '"' :: t => some ([], t)
  | _, '\r' :: '\n' :: t => push? (some '\n') (basicLines? .within t)
  | _, '\\' :: 'u' :: a :: b :: c :: d :: t =>
    push? (unicode? [a, b, c, d]) (basicLines? .within t)
  | _, '\\' :: 'U' :: a :: b :: c :: d :: e :: f :: g :: h :: t =>
    push? (unicode? [a, b, c, d, e, f, g, h]) (basicLines? .within t)
  | _, '\\' :: c :: t =>
    match escape? c with
    | some e => push? (some e) (basicLines? .within t)
    | none =>
      if c = ' ' ∨ c = '\t' then basicLines? .lineEnd t
      else if c = '\n' then basicLines? .lineStart t
      else
        match c, t with
        | '\r', '\n' :: t => basicLines? .lineStart t
        | _, _ => none
  | _, c :: t =>
    if isHiddenControl c ∨ c = '\\' then none else push? (some c) (basicLines? .within t)

/-- What stands before three single quotes, and what stands behind them. -/
def literalLines? : Text → Option (Text × Text)
  | [] => none
  | '\'' :: '\'' :: '\'' :: '\'' :: '\'' :: t => some (['\'', '\''], t)
  | '\'' :: '\'' :: '\'' :: '\'' :: t => some (['\''], t)
  | '\'' :: '\'' :: '\'' :: t => some ([], t)
  | '\r' :: '\n' :: t => push? (some '\n') (literalLines? t)
  | c :: t => if isHiddenControl c then none else push? (some c) (literalLines? t)

/-- The text without a line end at its front. -/
def skipLineEnd : Text → Text
  | '\n' :: t => t
  | '\r' :: '\n' :: t => t
  | t => t

/-- A string. -/
def string? : Text → Option (Text × Text)
  | '"' :: '"' :: '"' :: t => basicLines? .within (skipLineEnd t)
  | '"' :: t => basic? t
  | '\'' :: '\'' :: '\'' :: t => literalLines? (skipLineEnd t)
  | '\'' :: t => literal? t
  | _ => none

/-- A key without points. -/
def simpleKey? : Text → Option (Text × Text)
  | '"' :: t => basic? t
  | '\'' :: t => literal? t
  | t =>
    match Scanner.chars isBareKeyChar t with
    | ([], _) => none
    | found => some found

end CodeMarkup.Toml
