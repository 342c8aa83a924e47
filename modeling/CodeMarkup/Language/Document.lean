import CodeMarkup.Language.Patterns

/-!
# The document language

The rules of the language `html` (`CodeMarkup.Language.document`): comments, the
names of elements, attributes with their values, and strings that are left. The
text is escaped when the rules see it, so a tag begins with `&lt;`.
-/

namespace CodeMarkup.Language

namespace Document

open Regex

/-- A comment. -/
def commentExpr : Expr :=
  .concat [word "&lt;!--", manyLazy (.one .all), word "--&gt;"]

/-- The pattern of comments. -/
def commentSource : String := r"&lt;!--(?s:.*?)--&gt;"

/-- A letter below 128. -/
def letters : List CharSet := [.range 'A' 'Z', .range 'a' 'z']

/-- The start of a tag, as group 1, and the name of its element, as group 2. -/
def tagExpr : Expr :=
  seq [
    .group 1 (.concat [word "&lt;", optional (char '/')]),
    .group 2 (seq [oneOf letters, many (oneOf (letters ++ [.range '0' '9', .single '-']))])]

/-- The pattern of tags. -/
def tagSource : String := r"(&lt;/?)([A-Za-z][A-Za-z0-9-]*)"

/-- A span around the name; the start of the tag stays text. -/
def emitTag (r : Run) : List Piece :=
  [.text ((r.group? 1).getD []), .span .tag ((r.group? 2).getD [])]

/-- A value between two quotes `q`. -/
def valueExpr (q : Char) : Expr := seq [char q, many (noneOf [q]), char q]

/-- The name of an attribute, as group 1, and its value, as group 2, if it has quotes. -/
def attributeExpr : Expr :=
  seq [
    .group 1 (seq [
      oneOf (letters ++ [.single '_', .single ':']),
      many (oneOf (letters ++
        [.range '0' '9', .single '_', .single ':', .single '.', .single '-']))]),
    char '=',
    optional (.group 2 (either [valueExpr '"', valueExpr '\'']))]

/-- The pattern of attributes. -/
def attributeSource : String :=
  r#"([A-Za-z_:][A-Za-z0-9_:.-]*)=("[^"]*"|'[^']*')?"#

/-- A span around the name and one around the value, with the equals sign as text. -/
def emitAttribute (r : Run) : List Piece :=
  [.span .property ((r.group? 1).getD []), .text ['=']] ++
    ((r.group? 2).map (Piece.span .string)).toList

/-- A string on one line. -/
def stringExpr : Expr := seq [char '"', many (noneOf ['"', '\n']), char '"']

/-- The pattern of strings. -/
def stringSource : String := r#""[^"\n]*""#

/-! ### The rules -/

/-- Comments. -/
def commentRule : Rule := ⟨"comment", pattern commentSource commentExpr, .wrap .comment⟩

/-- Tags. -/
def tagRule : Rule := ⟨"tag", pattern tagSource tagExpr, .custom emitTag⟩

/-- Attributes. -/
def attributeRule : Rule :=
  ⟨"attribute", pattern attributeSource attributeExpr, .custom emitAttribute⟩

/-- Strings. -/
def stringRule : Rule := ⟨"string", pattern stringSource stringExpr, .wrap .string⟩

end Document

open Document in
/-- The rules of the document language. -/
def document : RuleSet where
  name := "html"
  rules := [commentRule, tagRule, attributeRule, stringRule]

namespace Document

theorem writtenAs_comment : WrittenAs commentSource commentExpr := by rfl

theorem writtenAs_tag : WrittenAs tagSource tagExpr := by rfl

theorem writtenAs_attribute : WrittenAs attributeSource attributeExpr := by rfl

theorem writtenAs_string : WrittenAs stringSource stringExpr := by rfl

end Document

end CodeMarkup.Language
