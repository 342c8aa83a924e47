import CodeMarkup.Text

/-!
# The classes of spans

The lexical category of a span (`CodeMarkup.SpanClass`). It is the last part of the
class attribute in the markup, behind a prefix that can be chosen.
-/

namespace CodeMarkup

/-- The lexical category of a span. -/
inductive SpanClass where
  /-- A comment. -/
  | comment
  /-- A string. -/
  | string
  /-- A reserved word. -/
  | keyword
  /-- A number. -/
  | number
  /-- The name of a type. -/
  | type
  /-- The name of a function that is called. -/
  | function
  /-- A bracket. -/
  | bracket
  /-- An operator. -/
  | operator
  /-- The name of an element. -/
  | tag
  /-- The name of a property or an attribute. -/
  | property
  deriving DecidableEq, Repr, Inhabited

namespace SpanClass

/-- All classes, in their order. -/
def all : List SpanClass :=
  [comment, string, keyword, number, type, function, bracket, operator, tag, property]

/-- The name of a class. -/
def name : SpanClass → String
  | comment => "comment"
  | string => "string"
  | keyword => "keyword"
  | number => "number"
  | type => "type"
  | function => "function"
  | bracket => "bracket"
  | operator => "operator"
  | tag => "tag"
  | property => "property"

/-- The class that a name names. -/
def ofName? (name : String) : Option SpanClass := all.find? (·.name = name)

/-- **Names tell classes apart**. -/
theorem ofName?_name (c : SpanClass) : ofName? c.name = some c := by cases c <;> decide

end SpanClass

end CodeMarkup
