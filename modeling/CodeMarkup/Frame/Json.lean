import CodeMarkup.Frame
import CodeMarkup.Json.Reader
import CodeMarkup.Json.Writer

/-!
# Frames in JSON

A frame is handed to an editing surface as JSON (`CodeMarkup.Frame.toJson`), and can
be read back (`CodeMarkup.Frame.ofJson?`).
-/

namespace CodeMarkup

/-- The place that a datum writes. -/
def Caret.ofDatum? (v : Datum) : Option Caret :=
  match v.fields? Json.dialect ["line", "col"] with
  | some [line, col] => do
    let line ← Datum.required Datum.nat? line
    let col ← Datum.required Datum.nat? col
    return ⟨line, col⟩
  | _ => none

namespace Frame

/-- The written form of a frame, with each field on a line of its own. -/
def toJson (f : Frame) : Text :=
  Json.object [] [
    ("language".toList, f.language.elim Json.nothing fun l => Json.quote l.toList),
    ("markup".toList, Json.quote f.markup),
    ("gutter".toList, Json.quote f.gutter),
    ("line_count".toList, Json.numeral f.lineCount),
    ("cursor".toList, Json.object [' ', ' '] [
      ("line".toList, Json.numeral f.cursor.line),
      ("col".toList, Json.numeral f.cursor.col)])]

/-- The frame that a datum writes. Written as a table it may leave the language out. -/
def ofDatum? (v : Datum) : Option Frame :=
  match v.fields? Json.dialect ["language", "markup", "gutter", "line_count", "cursor"] with
  | some [language, markup, gutter, lineCount, cursor] => do
    let language ← Datum.optional none (Datum.option? Datum.string?) language
    let markup ← Datum.required Datum.string? markup
    let gutter ← Datum.required Datum.string? gutter
    let lineCount ← Datum.required Datum.nat? lineCount
    let cursor ← Datum.required Caret.ofDatum? cursor
    return ⟨language, markup.toList, gutter.toList, lineCount, cursor⟩
  | _ => none

/-- The frame that a text writes. -/
def ofJson? (t : Text) : Option Frame := (Json.read? t).bind ofDatum?

end Frame

end CodeMarkup
