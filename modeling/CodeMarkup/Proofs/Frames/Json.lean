import CodeMarkup.Frame.Json
import CodeMarkup.Proofs.Json

/-!
# A frame in JSON is read back

What is written for a frame is JSON, a table with the five fields of the frame in their order
(`CodeMarkup.Frame.read?_toJson`), and the frame is read back from it, whatever its language,
markup and gutter hold. Only its numbers matter: **the frame comes back if they fit into 64
bits, and nothing does if one of them does not** (`CodeMarkup.Frame.ofJson?_toJson`).
-/

namespace CodeMarkup

open Json

/-! ### Carets -/

namespace Caret

/-- The datum that is written for a caret. -/
def datum (c : Caret) : Datum := .table [("line", .nat c.line), ("col", .nat c.col)]

/-- That the numbers of a caret fit into 64 bits. -/
def Fits (c : Caret) : Prop := c.line < 0x10000000000000000 ∧ c.col < 0x10000000000000000

instance (c : Caret) : Decidable c.Fits := inferInstanceAs (Decidable (_ ∧ _))

/-- What is written for a caret, with white space before its lines. -/
theorem writtenFor_object (c : Caret) {indent : Text} (hindent : ∀ b ∈ indent, isBlank b) :
    WrittenFor 1 (object indent [
      ("line".toList, numeral c.line), ("col".toList, numeral c.col)]) c.datum := by
  refine Json.writtenFor_object 0
    [("line", numeral c.line, .nat c.line), ("col", numeral c.col, .nat c.col)] indent
    (by simp) ?_ hindent
  simp only [List.forall_mem_cons]
  exact ⟨writtenFor_numeral c.line, writtenFor_numeral c.col, by simp⟩

theorem ofDatum?_datum (c : Caret) : ofDatum? c.datum = if c.Fits then some c else none := by
  have hfields : c.datum.fields? Json.dialect ["line", "col"] =
      some [some (.nat c.line), some (.nat c.col)] := rfl
  simp only [ofDatum?, hfields, Datum.required, Option.bind_some, Datum.nat?, Fits]
  by_cases hline : c.line < 0x10000000000000000 <;>
    by_cases hcol : c.col < 0x10000000000000000 <;>
      simp [hline, hcol]

end Caret

/-! ### Frames -/

namespace Frame

/-- The datum that is written for a frame. -/
def datum (f : Frame) : Datum := .table [
  ("language", f.language.elim .null .string),
  ("markup", .string (String.ofList f.markup)),
  ("gutter", .string (String.ofList f.gutter)),
  ("line_count", .nat f.lineCount),
  ("cursor", f.cursor.datum)]

/-- That the numbers of a frame fit into 64 bits. -/
def Fits (f : Frame) : Prop := f.lineCount < 0x10000000000000000 ∧ f.cursor.Fits

instance (f : Frame) : Decidable f.Fits := inferInstanceAs (Decidable (_ ∧ _))

theorem writtenFor_language (language : Option String) :
    WrittenFor 0 (language.elim nothing fun l => quote l.toList) (language.elim .null .string) := by
  cases language with
  | none => exact writtenFor_nothing
  | some l =>
    have h := writtenFor_quote l.toList
    rwa [String.ofList_toList] at h

theorem writtenFor_toJson (f : Frame) : WrittenFor 2 f.toJson f.datum := by
  refine Json.writtenFor_object 1 [
    ("language", f.language.elim nothing fun l => quote l.toList, f.language.elim .null .string),
    ("markup", quote f.markup, .string (String.ofList f.markup)),
    ("gutter", quote f.gutter, .string (String.ofList f.gutter)),
    ("line_count", numeral f.lineCount, .nat f.lineCount),
    ("cursor", object [' ', ' '] [
      ("line".toList, numeral f.cursor.line), ("col".toList, numeral f.cursor.col)],
      f.cursor.datum)] [] (by simp) ?_ (by simp)
  simp only [List.forall_mem_cons]
  refine ⟨?_, ?_, ?_, ?_, ?_, by simp⟩
  · exact (writtenFor_language f.language).mono (Nat.zero_le 1)
  · exact (writtenFor_quote f.markup).mono (Nat.zero_le 1)
  · exact (writtenFor_quote f.gutter).mono (Nat.zero_le 1)
  · exact (writtenFor_numeral f.lineCount).mono (Nat.zero_le 1)
  · exact f.cursor.writtenFor_object (by simp [isBlank])

/-- **What is written for a frame is JSON**, the table of its fields. -/
theorem read?_toJson (f : Frame) {behind : Text} (hbehind : ∀ c ∈ behind, isBlank c) :
    Json.read? (f.toJson ++ behind) = some f.datum := by
  have hends : EndsNumber behind := by
    intro c hc
    have hblank := hbehind c (List.mem_of_mem_head? hc)
    simp only [isBlank, Bool.or_eq_true, decide_eq_true_eq] at hblank
    rcases hblank with ((rfl | rfl) | rfl) | rfl <;> decide
  have hdepth : 2 < (f.toJson ++ behind).length := by
    simp only [toJson, object, List.length_append, List.length_cons]
    omega
  rw [Json.read?, f.writtenFor_toJson _ behind hdepth hends, skipBlanks_eq_nil hbehind]

theorem ofDatum?_datum (f : Frame) : ofDatum? f.datum = if f.Fits then some f else none := by
  have hfields : f.datum.fields? Json.dialect
      ["language", "markup", "gutter", "line_count", "cursor"] =
        some [some (f.language.elim .null .string), some (.string (String.ofList f.markup)),
          some (.string (String.ofList f.gutter)), some (.nat f.lineCount),
          some f.cursor.datum] := rfl
  have hlanguage : Datum.optional none (Datum.option? Datum.string?)
      (some (f.language.elim .null .string)) = some f.language := by
    cases f.language <;> rfl
  simp only [ofDatum?, hfields, hlanguage, Datum.required, Option.bind_some, Datum.nat?,
    Datum.string?, Caret.ofDatum?_datum, Fits]
  by_cases hcount : f.lineCount < 0x10000000000000000 <;> by_cases hcursor : f.cursor.Fits <;>
    simp [hcount, hcursor]

/-- **A frame is read back from its JSON**, with any white space behind it, like the line feed with
which it is printed. The text is JSON, a table with the fields of the frame in their order; from
it comes the frame and no other one if the numbers of the frame fit into 64 bits, and none if
they do not. -/
theorem ofJson?_toJson (f : Frame) {behind : Text} (hbehind : ∀ c ∈ behind, isBlank c) :
    Json.read? (f.toJson ++ behind) = some f.datum ∧
      ofJson? (f.toJson ++ behind) = if f.Fits then some f else none := by
  have hread := f.read?_toJson hbehind
  refine ⟨hread, ?_⟩
  rw [ofJson?, hread, Option.bind_some, ofDatum?_datum]

/-- A frame without a language, with quotes, controls and the greatest of all numbers. -/
theorem ofJson?_toJson_greatest :
    let f : Frame :=
      ⟨none, "\"\\\n\x01</span>".toList, [], 0xffffffffffffffff, ⟨0xffffffffffffffff, 0⟩⟩
    (∀ c ∈ ['\n'], isBlank c) ∧ f.Fits ∧ ofJson? (f.toJson ++ ['\n']) = some f := by
  have hblank : ∀ c ∈ ['\n'], isBlank c := by simp [isBlank]
  exact ⟨hblank, by decide, (ofJson?_toJson _ hblank).2⟩

end Frame

end CodeMarkup
