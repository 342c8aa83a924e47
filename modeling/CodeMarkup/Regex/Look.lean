import CodeMarkup.Regex.CharSet

/-!
# Assertions about a place

A *place* in a text is a point between two characters, or before the first or
after the last one. An assertion (`CodeMarkup.Regex.Look`) takes no character: it
holds at a place or not, and this depends on the characters on both sides of it
only (`CodeMarkup.Regex.Look.holds`).
-/

namespace CodeMarkup.Regex

/-- A point of a text, seen through the characters next to it. -/
structure Place where
  /-- The character before the place; none at the start of the text. -/
  prev : Option Char
  /-- The character after the place; none at the end of the text. -/
  next : Option Char
  deriving DecidableEq, Repr

/-- An assertion about a place. -/
inductive Look where
  /-- The start of the text. -/
  | start
  /-- The end of the text. -/
  | stop
  /-- The start of a line, where lines end in a line feed. -/
  | startLine
  /-- The end of a line, where lines end in a line feed. -/
  | endLine
  /-- The start of a line, where lines end in a line feed, a carriage return, or both. -/
  | startLineCrlf
  /-- The end of a line, where lines end in a line feed, a carriage return, or both. -/
  | endLineCrlf
  /-- Between a word character and none. With `ascii`, only those below 128 count. -/
  | boundary (ascii : Bool)
  /-- Anywhere but at a boundary. -/
  | noBoundary (ascii : Bool)
  /-- Before a word: none on the left, a word character on the right. -/
  | wordStart (ascii : Bool)
  /-- After a word: a word character on the left, none on the right. -/
  | wordEnd (ascii : Bool)
  /-- No word character on the left. -/
  | wordStartHalf (ascii : Bool)
  /-- No word character on the right. -/
  | wordEndHalf (ascii : Bool)
  deriving DecidableEq, Repr, Inhabited

/-- Whether there is a character, and it is a word character. -/
def isWordBeside (ascii : Bool) (c : Option Char) : Bool :=
  c.any fun c => if ascii then isAsciiWord c else isWord c

/-- Whether the assertion holds at the place. -/
def Look.holds : Look → Place → Bool
  | start, p => p.prev.isNone
  | stop, p => p.next.isNone
  | startLine, p => p.prev.all (· = '\n')
  | endLine, p => p.next.all (· = '\n')
  | startLineCrlf, p => p.prev.all fun c => c = '\n' || (c = '\r' && p.next != some '\n')
  | endLineCrlf, p => p.next.all fun c => c = '\r' || (c = '\n' && p.prev != some '\r')
  | boundary ascii, p => isWordBeside ascii p.prev != isWordBeside ascii p.next
  | noBoundary ascii, p => isWordBeside ascii p.prev == isWordBeside ascii p.next
  | wordStart ascii, p => !isWordBeside ascii p.prev && isWordBeside ascii p.next
  | wordEnd ascii, p => isWordBeside ascii p.prev && !isWordBeside ascii p.next
  | wordStartHalf ascii, p => !isWordBeside ascii p.prev
  | wordEndHalf ascii, p => !isWordBeside ascii p.next

end CodeMarkup.Regex
