import CodeMarkup.Numeral
import CodeMarkup.Regex.Expr

/-!
# The letters of the pattern language

What the parts of a pattern mean by themselves: the characters that a backslash
makes literal, the classes with names, the flags, and the ways in which a pattern
can be wrong (`CodeMarkup.Regex.PatternError`).
-/

namespace CodeMarkup.Regex

/-- What is wrong with a pattern. -/
inductive PatternError where
  /-- A group has no end. -/
  | unclosedGroup
  /-- A group has an end and no start. -/
  | unopenedGroup
  /-- A bracketed class has no end. -/
  | unclosedClass
  /-- The pattern ends in the middle of something. -/
  | unexpectedEnd
  /-- A repetition has nothing before it. -/
  | nothingToRepeat
  /-- The bounds of a repetition are not written as numbers between braces. -/
  | badCount
  /-- A number is too large. -/
  | numberTooLarge
  /-- The lower bound of a repetition is above the upper bound. -/
  | countOrder
  /-- A backslash before a character that it gives no meaning. -/
  | badEscape
  /-- A reference to a group. -/
  | backreference
  /-- A hexadecimal escape that writes no character. -/
  | badHex
  /-- A property that does not exist. -/
  | unknownProperty
  /-- A flag that does not exist, is repeated, or is missing after a minus. -/
  | badFlags
  /-- A name of a group with a character that names do not have, or without any. -/
  | badGroupName
  /-- Two groups of the same name. -/
  | duplicateGroupName
  /-- A look ahead or behind. -/
  | lookAround
  /-- Something in a bracketed class that stands for no character. -/
  | badClassItem
  /-- The ends of a range are in the wrong order. -/
  | rangeOrder
  /-- A kind of word boundary that does not exist. -/
  | badBoundary
  /-- With Unicode switched off, something that goes beyond the characters below 128. -/
  | beyondAscii
  /-- Groups, repetitions or classes that are nested too deeply. -/
  | tooDeep
  /-- An expression that takes too much room. -/
  | tooLarge
  deriving DecidableEq, Repr

/-! ### Flags -/

/-- The flags in force at one point of a pattern. -/
structure Flags where
  /-- `i`: letters stand for both cases. -/
  ignoreCase : Bool := false
  /-- `m`: the anchors hold at lines. -/
  multiLine : Bool := false
  /-- `s`: the dot stands for a line feed too. -/
  dotAll : Bool := false
  /-- `U`: a repetition is lazy unless it is marked. -/
  swapGreed : Bool := false
  /-- `u`: classes and cases are those of all characters. -/
  unicode : Bool := true
  /-- `R`: a carriage return ends a line too. -/
  crlf : Bool := false
  /-- `x`: white space and comments in the pattern are skipped. -/
  verbose : Bool := false
  deriving DecidableEq, Repr, Inhabited

/-- The flags after `letter` has been switched on or off. -/
def Flags.set? (f : Flags) (letter : Char) (on : Bool) : Option Flags :=
  match letter with
  | 'i' => some { f with ignoreCase := on }
  | 'm' => some { f with multiLine := on }
  | 's' => some { f with dotAll := on }
  | 'U' => some { f with swapGreed := on }
  | 'u' => some { f with unicode := on }
  | 'R' => some { f with crlf := on }
  | 'x' => some { f with verbose := on }
  | _ => none

/-! ### Single characters -/

/-- The characters that have a meaning of their own in patterns. -/
def metaChars : List Char := "\\.+*?()|[]\x7b\x7d^$#&-~".toList

/-- Whether a backslash makes the character literal: one with a meaning, or another one
below 128 that is no letter, digit or angle bracket. -/
def isEscapable (c : Char) : Bool :=
  metaChars.contains c || (c.toNat < 128 && !c.isAlphanum && c ≠ '<' && c ≠ '>')

/-- The control character that a letter after a backslash stands for. -/
def controlEscape? : Char → Option Char
  | 'a' => some '\x07'
  | 'f' => some '\x0c'
  | 't' => some '\t'
  | 'n' => some '\n'
  | 'r' => some '\r'
  | 'v' => some '\x0b'
  | _ => none

/-- Whether `c` may stand in the name of a group, at its start or behind it. -/
def isNameChar (first : Bool) (c : Char) : Bool :=
  c = '_' || alphabetic || (!first && (c = '.' || c = '[' || c = ']' || numeric))
where
  /-- Whether `c` is alphabetic. -/
  alphabetic : Bool :=
    if c.toNat < 128 then c.isAlpha else Unicode.BinaryProperty.alphabetic.holds c
  /-- Whether `c` is a number. -/
  numeric : Bool :=
    if c.toNat < 128 then c.isDigit
    else [.decimalNumber, .letterNumber, .otherNumber].contains (Unicode.category c)

/-! ### Classes with names -/

namespace CharSet

/-- The characters below 128. -/
def ascii : CharSet := range '\x00' '\x7f'

/-- The letters below 128. -/
def asciiAlpha : CharSet := union (range 'A' 'Z') (range 'a' 'z')

/-- The digits below 128. -/
def asciiDigit : CharSet := range '0' '9'

/-- The word characters below 128. -/
def asciiWord : CharSet := union asciiAlpha (union asciiDigit (single '_'))

/-- The white space below 128. -/
def asciiSpace : CharSet := union (range '\t' '\r') (single ' ')

/-- The class below 128 that has a name between colons. -/
def posix? : String → Option CharSet
  | "alnum" => some (union asciiDigit asciiAlpha)
  | "alpha" => some asciiAlpha
  | "ascii" => some ascii
  | "blank" => some (union (single '\t') (single ' '))
  | "cntrl" => some (union (range '\x00' '\x1f') (single '\x7f'))
  | "digit" => some asciiDigit
  | "graph" => some (range '!' '~')
  | "lower" => some (range 'a' 'z')
  | "print" => some (range ' ' '~')
  | "punct" => some (unionAll [range '!' '/', range ':' '@', range '[' '\x60', range '\x7b' '~'])
  | "space" => some asciiSpace
  | "upper" => some (range 'A' 'Z')
  | "word" => some asciiWord
  | "xdigit" => some (unionAll [asciiDigit, range 'A' 'F', range 'a' 'f'])
  | _ => none

/-- The set with the case variants of its members, if the flags ask for them. With
Unicode switched off the variants are those below 128. -/
def folded (f : Flags) (s : CharSet) : CharSet :=
  if f.ignoreCase then (if f.unicode then fold s else inter (fold s) ascii) else s

end CharSet

/-- A class as a whole, after its members have been put together: with case variants and
complemented, as the flags and `negated` say. With Unicode switched off a
complement would go beyond the characters below 128. -/
def finishClass (f : Flags) (negated : Bool) (s : CharSet) : Except PatternError CharSet :=
  if negated then
    if f.unicode then .ok (.compl (s.folded f)) else .error .beyondAscii
  else .ok (s.folded f)

/-- The class that a letter after a backslash stands for; a capital one stands for its
complement. -/
def perlClass? (f : Flags) (c : Char) : Option (Except PatternError CharSet) :=
  let lower := c.toLower
  let set : Option CharSet :=
    if lower = 'd' then some (if f.unicode then .digit else .asciiDigit)
    else if lower = 's' then some (if f.unicode then .space else .asciiSpace)
    else if lower = 'w' then some (if f.unicode then .word else .asciiWord)
    else none
  set.map fun s =>
    if c.isUpper then (if f.unicode then .ok (.compl s) else .error .beyondAscii) else .ok s

/-- The expression of the dot. -/
def dot (f : Flags) : Except PatternError Expr :=
  if !f.unicode then .error .beyondAscii
  else if f.dotAll then .ok (.one .all)
  else if f.crlf then .ok (.one (.compl (.union (.single '\r') (.single '\n'))))
  else .ok (.one (.compl (.single '\n')))

/-- The expression of a character that stands for itself. -/
def literal (f : Flags) (c : Char) : Expr :=
  let variants := if f.unicode then Unicode.caseVariants c else (Unicode.caseVariants c).filter (·.toNat < 128)
  if f.ignoreCase && !variants.isEmpty && (f.unicode || c.toNat < 128) then
    .one (CharSet.folded f (.single c))
  else .one (.single c)

end CodeMarkup.Regex
