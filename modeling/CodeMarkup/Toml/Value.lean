import CodeMarkup.Toml.DateTime
import CodeMarkup.Toml.Number
import CodeMarkup.Toml.Table
import CodeMarkup.Toml.Text

/-!
# Values and keys in TOML

What stands on the two sides of an equals sign: a key, which is a row of simple keys
with points between them (`CodeMarkup.Toml.key?`), and a value
(`CodeMarkup.Toml.value?`).

Arrays go over several lines and may have a comma behind their last item; tables in
braces do neither. Both may be nested to a depth of 79, and a key may have as many
parts.
-/

namespace CodeMarkup.Toml

/-! ### Between the parts -/

/-- White space on a line. -/
def isBlank (c : Char) : Bool := c = ' ' || c = '\t'

/-- The text without the white space that it begins with. -/
def skipBlanks (t : Text) : Text := t.dropWhile isBlank

/-- The text without the white space, line ends and comments that it begins with. With
`inComment` it begins in the middle of a comment. -/
def skipLines (inComment : Bool) : Text → Text
  | [] => []
  | '\r' :: '\n' :: t => skipLines false t
  | c :: t =>
    if c = '\n' then skipLines false t
    else if inComment then if isControl c then c :: t else skipLines true t
    else if isBlank c then skipLines false t
    else if c = '#' then skipLines true t
    else c :: t

/-! ### Keys -/

/-- How many parts a key may not have any more, and how deep a value may not be nested. -/
def depthLimit : Nat := 80

/-- One part of a key, with white space around it. -/
def keyPart? : Scanner String := fun t =>
  (simpleKey? (skipBlanks t)).map fun (part, r) => (String.ofList part, skipBlanks r)

/-- A key, with white space around it. -/
def key? : Scanner (List String) := fun t =>
  match Scanner.separated '.' keyPart? t with
  | ([], _) => none
  | (parts, r) => if parts.length < depthLimit then some (parts, r) else none

/-- A key and its value, with white space around them. -/
def keyed? (value? : Scanner Datum) : Scanner (List String × Datum) := fun t =>
  match key? t with
  | some (key, '=' :: r) =>
    (value? (skipBlanks r)).map fun (v, r) => ((key, v), skipBlanks r)
  | _ => none

/-! ### Values -/

/-- A value that has no others in it. -/
def scalar? : Scanner Datum
  | 't' :: t => (Scanner.word ['r', 'u', 'e'] t).map fun r => (.bool true, r)
  | 'f' :: t => (Scanner.word ['a', 'l', 's', 'e'] t).map fun r => (.bool false, r)
  | t =>
    match string? t with
    | some (s, r) => some (.string (String.ofList s), r)
    | none =>
      match dateTime? t with
      | some (d, r) => some (ofDateTime d, r)
      | none => number? t

/-- The table that entries in braces make. -/
def braced? (kvs : List (List String × Datum)) : Option Datum :=
  (putAll kvs []).map fun es => .table (entriesData es)

/-- The items of an array behind its bracket, and what is behind the bracket that closes it. -/
def items? (value? : Scanner Datum) : Scanner (List Datum) := fun t =>
  let item? : Scanner Datum := fun t =>
    (value? (skipLines false t)).map fun (v, r) => (v, skipLines false r)
  let (vs, r) := Scanner.separated ',' item? t
  let r :=
    match vs, r with
    | _ :: _, ',' :: r => r
    | _, r => r
  match skipLines false r with
  | ']' :: r => some (vs, r)
  | _ => none

/-- The entries of a table behind its brace, and what is behind the brace that closes it. -/
def entries? (value? : Scanner Datum) : Scanner (List (List String × Datum)) := fun t =>
  let (kvs, r) := Scanner.separated ',' (keyed? value?) t
  match skipBlanks r with
  | '\x7d' :: r => some (kvs, r)
  | _ => none

/-- A value, in which others are nested up to some depth. -/
def nested? : Nat → Scanner Datum
  | depth + 1, '[' :: t => (items? (nested? depth) t).map fun (vs, r) => (.list vs, r)
  | depth + 1, '\x7b' :: t =>
    match entries? (nested? depth) t with
    | some (kvs, r) => (braced? kvs).map fun v => (v, r)
    | none => none
  | _, t => scalar? t

/-- A value. -/
def value? : Scanner Datum := nested? (depthLimit - 1)

end CodeMarkup.Toml
