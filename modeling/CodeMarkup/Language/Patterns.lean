import CodeMarkup.Rule

/-!
# Patterns of the languages

The patterns of the languages that need no configuration are given twice: as they
are written, and as the expressions that they write. `CodeMarkup.Language.WrittenAs`
says that the two agree.
-/

namespace CodeMarkup.Language

open Regex

/-- The expression that takes one character. -/
def char (c : Char) : Expr := .one (.single c)

/-- The expression that takes a word. -/
def word (s : String) : Expr := .concat (s.toList.map char)

/-- The expression that takes one character of a set. -/
def oneOf (sets : List CharSet) : Expr := .one (.unionAll sets)

/-- The expression that takes one character that is none of those given. -/
def noneOf (cs : List Char) : Expr := .one (.compl (.ofList cs))

/-- Any character but a line feed. -/
def notLineFeed : Expr := noneOf ['\n']

/-- The expressions one after the other. -/
def seq (es : List Expr) : Expr := .ofFactors es

/-- The first of the expressions that matches. -/
def either (es : List Expr) : Expr := .ofBranches es

/-- As often as possible, also not at all. -/
def many (e : Expr) : Expr := .rep 0 none true e

/-- As often as possible, at least once. -/
def many1 (e : Expr) : Expr := .rep 1 none true e

/-- Once, or else not at all. -/
def optional (e : Expr) : Expr := .rep 0 (some 1) true e

/-- As rarely as possible, also not at all. -/
def manyLazy (e : Expr) : Expr := .rep 0 none false e

/-- The edge of a word. -/
def boundary : Expr := .look (.boundary false)

/-- A backslash and the expression behind it, or a character that is none of those given. -/
def escapedOr (behind : Expr) (cs : List Char) : Expr :=
  either [seq [char '\\', behind], noneOf cs]

/-- A string between two quotes `q`, in which a backslash stands before any character
but a line feed. -/
def quotedBy (q : Char) : Expr :=
  seq [char q, many (escapedOr notLineFeed [q, '\\']), char q]

/-- A comment from a slash and a star to the next star and slash. -/
def blockComment : Expr :=
  seq [char '/', char '*', manyLazy (.one .all), char '*', char '/']

/-- That `source` writes the expression `e`. -/
def WrittenAs (source : String) (e : Expr) : Prop := Expr.parse source.toList = .ok e

/-- The pattern `source`, which writes the expression `e`. -/
def pattern (source : String) (e : Expr) : Regex := ⟨source, e.toMarked⟩

end CodeMarkup.Language
