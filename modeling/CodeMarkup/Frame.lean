import CodeMarkup.Highlighter

/-!
# What an editing surface shows

Beside the markup a surface shows the numbers of the lines and the place of the
caret. `CodeMarkup.Frame` has all that is drawn anew after an edit.

Lines are separated by line feeds, so a text has one line more than line feeds, and
a place in it is given by a line, counted from 1, and the number of characters before
it on the line.
-/

namespace CodeMarkup

/-- The lines of a text. -/
def lines (text : Text) : List Text := Text.splitOn '\n' text

/-- The number of lines; a text without line feeds has one. -/
def lineCount (text : Text) : Nat := (lines text).length

/-- The numbers of the lines, one below the other, as markup. -/
def numbering (text : Text) : Text :=
  Text.join "<br>".toList ((List.range (lineCount text)).map fun i => Nat.toDigits 10 (i + 1))

/-- A place in a text, as it is shown. -/
structure Caret where
  /-- The line, counted from 1. -/
  line : Nat
  /-- The number of characters before it on the line. -/
  col : Nat
  deriving DecidableEq, Repr

namespace Caret

/-- The start of a text. -/
def default : Caret := ⟨1, 0⟩

/-- The place behind a text. -/
def behind (before : Text) : Caret :=
  let ls := lines before
  ⟨ls.length, (ls.getLast?.getD []).length⟩

/-- The place behind the first `offset` characters of a text, or behind all of it. -/
def atOffset (text : Text) (offset : Nat) : Caret := behind (text.take offset)

end Caret

/-- What an editing surface shows. -/
structure Frame where
  /-- The name of the language, if it is known. -/
  language : Option String
  /-- The markup of the document. -/
  markup : Text
  /-- The numbers of the lines, as markup. -/
  gutter : Text
  /-- The number of lines. -/
  lineCount : Nat
  /-- The place of the caret. -/
  cursor : Caret
  deriving DecidableEq, Repr

/-- The frame for a text with the caret behind its first `caret` characters, and the
highlighter afterwards. -/
def Frame.render (h : Highlighter) (text : Text) (language : String) (caret : Nat) :
    Frame × Highlighter :=
  let (markup, h') := h.highlight text language
  ({ language := h.registry.nameOf? language
     markup
     gutter := numbering text
     lineCount := CodeMarkup.lineCount text
     cursor := Caret.atOffset text caret }, h')

end CodeMarkup
