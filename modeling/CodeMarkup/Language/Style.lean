import CodeMarkup.Language.Patterns

/-!
# The style language

The rules of the language `css` (`CodeMarkup.Language.style`): comments, the names
of properties, colours, and strings. The rules for properties and for colours match
strings too, and let them pass as they are, so that nothing in a string is taken for
a property or a colour; the last rule wraps them.
-/

namespace CodeMarkup.Language

namespace Style

open Regex

/-- The pattern of comments. -/
def commentSource : String := r"/\*(?s:.*?)\*/"

/-- A string, which may run over several lines. -/
def quotedExpr : Expr := either [quotedBy '"', quotedBy '\'']

/-- The pattern of strings. -/
def quotedSource : String := r#""(?:\\.|[^"\\])*"|'(?:\\.|[^'\\])*'"#

/-- A string, as group 1, or the name of a property, as group 2, with a colon. -/
def propertyExpr : Expr :=
  either [
    .group 1 quotedExpr,
    seq [
      .group 2 (many1 (oneOf [.range 'A' 'Z', .range 'a' 'z', .single '-'])),
      char ':']]

/-- The pattern of properties. -/
def propertySource : String :=
  "(?P<quoted>" ++ quotedSource ++ ")|(?P<name>[A-Za-z-]+):"

/-- A span around the name, with the colon as text; a string as it is. -/
def emitProperty (r : Run) : List Piece :=
  match r.group? 2 with
  | some name => [.span .property name, .text [':']]
  | none => [.text r.taken]

/-- A hexadecimal digit. -/
def hexDigit : Expr := oneOf [.range '0' '9', .range 'A' 'F', .range 'a' 'f']

/-- A string, as group 1, or a colour, as group 2. -/
def colorExpr : Expr :=
  either [
    .group 1 quotedExpr,
    .group 2 (seq [
      char '#',
      either [
        .rep 8 (some 8) true hexDigit,
        .rep 6 (some 6) true hexDigit,
        .rep 3 (some 4) true hexDigit],
      boundary])]

/-- The pattern of colours. -/
def colorSource : String :=
  "(?P<quoted>" ++ quotedSource ++ ")|(?P<color>#(?:[0-9A-Fa-f]\x7b8\x7d|" ++
    "[0-9A-Fa-f]\x7b6\x7d|[0-9A-Fa-f]\x7b3,4\x7d)\\b)"

/-- A span around a colour; a string as it is. -/
def emitColor (r : Run) : List Piece :=
  match r.group? 2 with
  | some color => [.span .number color]
  | none => [.text r.taken]

/-! ### The rules -/

/-- Comments. -/
def commentRule : Rule := ⟨"comment", pattern commentSource blockComment, .wrap .comment⟩

/-- Names of properties. -/
def propertyRule : Rule :=
  ⟨"property", pattern propertySource propertyExpr, .custom emitProperty⟩

/-- Colours. -/
def colorRule : Rule := ⟨"color", pattern colorSource colorExpr, .custom emitColor⟩

/-- Strings. -/
def stringRule : Rule := ⟨"string", pattern quotedSource quotedExpr, .wrap .string⟩

end Style

open Style in
/-- The rules of the style language. -/
def style : RuleSet where
  name := "css"
  rules := [commentRule, propertyRule, colorRule, stringRule]

namespace Style

theorem writtenAs_comment : WrittenAs commentSource blockComment := by rfl

theorem writtenAs_quoted : WrittenAs quotedSource quotedExpr := by rfl

theorem writtenAs_property : WrittenAs propertySource propertyExpr := by rfl

theorem writtenAs_color : WrittenAs colorSource colorExpr := by rfl

end Style

end CodeMarkup.Language
