import CodeMarkup.Language.Patterns

/-!
# The script language

The rules of the language `js` (`CodeMarkup.Language.script`). Comments and strings
come first, so that nothing in them is looked at again; then keywords, numbers, the
names of types, which begin with a capital letter, the names of functions that are
called, brackets and operators. The text is escaped when the rules see it, so the
operators `&`, `<` and `>` are entities.
-/

namespace CodeMarkup.Language

namespace Script

open Regex

/-- The reserved words. -/
def keywords : List String :=
  ["if", "else", "for", "while", "function", "return", "const", "let", "var", "class", "new",
    "import", "export", "from", "async", "await"]

/-! ### Comments and strings -/

/-- A string between two quotes `q` on one line. -/
def lineString (q : Char) : Expr :=
  seq [char q, many (escapedOr notLineFeed [q, '\\', '\n']), char q]

/-- A string between backquotes, which may run over several lines. -/
def templateString : Expr :=
  seq [char '\x60', many (escapedOr (.one .all) ['\x60', '\\']), char '\x60']

/-- A comment up to the end of the line, or a comment between marks. -/
def commentExpr : Expr :=
  either [seq [char '/', char '/', many notLineFeed], blockComment]

/-- A string with one of the three kinds of quotes. -/
def stringExpr : Expr := either [lineString '"', lineString '\'', templateString]

/-- A comment, as group 1, or a string, as group 2. -/
def commentOrStringExpr : Expr := either [.group 1 commentExpr, .group 2 stringExpr]

/-- The pattern of comments and strings. -/
def commentOrStringSource : String :=
  r#"(?P<comment>//[^\n]*|/\*(?s:.*?)\*/)|(?P<string>"(?:\\.|[^"\\\n])*"|'(?:\\.|[^'\\\n])*'|"# ++
    "\x60(?:\\\\(?s:.)|[^\x60\\\\])*\x60)"

/-- A span around the whole match: a comment if the first group took part. -/
def emitCommentOrString (r : Run) : List Piece :=
  [.span (if (r.group? 1).isSome then .comment else .string) r.taken]

/-! ### Words and signs -/

/-- One of the reserved words, as a whole word. -/
def keywordExpr : Expr := seq [boundary, either (keywords.map word), boundary]

/-- The pattern of reserved words. -/
def keywordSource : String := "\\b(?:" ++ String.intercalate "|" keywords ++ ")\\b"

/-- A number, perhaps with a fraction. -/
def numberExpr : Expr :=
  seq [boundary, many1 (.one .digit), optional (seq [char '.', many1 (.one .digit)]), boundary]

/-- The pattern of numbers. -/
def numberSource : String := r"\b\d+(?:\.\d+)?\b"

/-- A character inside of a name. -/
def nameChar : Expr := oneOf [.word, .single '$']

/-- A name that begins with a capital letter. -/
def typeExpr : Expr := seq [boundary, .one (.range 'A' 'Z'), many nameChar]

/-- The pattern of names of types. -/
def typeSource : String := r"\b[A-Z][\w$]*"

/-- A name, as group 1, and white space with a parenthesis, as group 2. -/
def callExpr : Expr :=
  seq [
    .group 1 (seq [
      oneOf [.range 'A' 'Z', .range 'a' 'z', .single '_', .single '$'],
      many nameChar]),
    .group 2 (seq [many (.one .space), char '('])]

/-- The pattern of calls. -/
def callSource : String := r"([A-Za-z_$][\w$]*)(\s*\()"

/-- A span around the name; the parenthesis stays text. -/
def emitCall (r : Run) : List Piece :=
  [.span .function ((r.group? 1).getD []), .text ((r.group? 2).getD [])]

/-- A bracket. -/
def bracketExpr : Expr := .one (.ofList ['[', ']', '\x7b', '\x7d', '(', ')'])

/-- The pattern of brackets. -/
def bracketSource : String := "[\\[\\]\x7b\x7d()]"

/-- An entity, up to three points, or one of the other signs. -/
def operatorExpr : Expr :=
  either [
    word "&amp;", word "&lt;", word "&gt;",
    .rep 1 (some 3) true (char '.'),
    .one (.ofList ['=', '+', '-', '*', '/', '%', '!', '|', '?', ':'])]

/-- The pattern of operators. -/
def operatorSource : String := "&amp;|&lt;|&gt;|\\.\x7b1,3\x7d|[=+\\-*/%!|?:]"

/-! ### The rules -/

/-- Comments and strings. -/
def commentOrStringRule : Rule :=
  ⟨"comment-or-string", pattern commentOrStringSource commentOrStringExpr,
    .custom emitCommentOrString⟩

/-- Reserved words. -/
def keywordRule : Rule := ⟨"keyword", pattern keywordSource keywordExpr, .wrap .keyword⟩

/-- Numbers. -/
def numberRule : Rule := ⟨"number", pattern numberSource numberExpr, .wrap .number⟩

/-- Names of types. -/
def typeRule : Rule := ⟨"type", pattern typeSource typeExpr, .wrap .type⟩

/-- Calls. -/
def callRule : Rule := ⟨"call", pattern callSource callExpr, .custom emitCall⟩

/-- Brackets. -/
def bracketRule : Rule := ⟨"bracket", pattern bracketSource bracketExpr, .wrap .bracket⟩

/-- Operators. -/
def operatorRule : Rule := ⟨"operator", pattern operatorSource operatorExpr, .wrap .operator⟩

end Script

open Script in
/-- The rules of the script language. -/
def script : RuleSet where
  name := "js"
  rules := [commentOrStringRule, keywordRule, numberRule, typeRule, callRule, bracketRule,
    operatorRule]

namespace Script

theorem writtenAs_commentOrString : WrittenAs commentOrStringSource commentOrStringExpr := by rfl

theorem writtenAs_keyword : WrittenAs keywordSource keywordExpr := by rfl

theorem writtenAs_number : WrittenAs numberSource numberExpr := by rfl

theorem writtenAs_type : WrittenAs typeSource typeExpr := by rfl

theorem writtenAs_call : WrittenAs callSource callExpr := by rfl

theorem writtenAs_bracket : WrittenAs bracketSource bracketExpr := by rfl

theorem writtenAs_operator : WrittenAs operatorSource operatorExpr := by rfl

end Script

end CodeMarkup.Language
