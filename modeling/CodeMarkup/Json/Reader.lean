import CodeMarkup.Datum
import CodeMarkup.Json.Text
import CodeMarkup.Scanner

/-!
# Reading JSON

`CodeMarkup.Json.read?` reads a text that is one JSON value, with nothing but white
space around it. What has no place in a datum is read all the same, and becomes
`CodeMarkup.Datum.other`: a number that is not written with digits only, and a string
in which half a character stands alone, also as a key of a table.

A value has others in it at most as deep as it has characters, so that is the depth
to which `CodeMarkup.Json.value?` is asked to look.
-/

namespace CodeMarkup.Json

/-- The white space between the parts of a value. -/
def isBlank (c : Char) : Bool := c = ' ' || c = '\t' || c = '\n' || c = '\r'

/-- The text without the white space that it begins with. -/
def skipBlanks (t : Text) : Text := t.dropWhile isBlank

/-! ### Numbers -/

/-- One digit or more. -/
def digits? : Scanner Text := fun t =>
  match Scanner.chars Char.isDigit t with
  | ([], _) => none
  | found => some found

/-- The text without the fraction that it begins with, if a point says that there is one. -/
def skipFraction? : Text → Option Text
  | '.' :: t => (digits? t).map (·.2)
  | t => some t

/-- The text without the exponent that it begins with, if a letter says that there is one. -/
def skipExponent? : Text → Option Text
  | c :: t =>
    if c = 'e' ∨ c = 'E' then
      match t with
      | '+' :: t => (digits? t).map (·.2)
      | '-' :: t => (digits? t).map (·.2)
      | t => (digits? t).map (·.2)
    else some (c :: t)
  | [] => some []

/-- A number without a sign. No digit may come behind a zero in front. -/
def unsigned? : Scanner Datum := fun t =>
  match digits? t with
  | some (ds, r) =>
    if ds.head? = some '0' ∧ ds.length ≠ 1 then none
    else
      match (skipFraction? r).bind skipExponent? with
      -- Nothing was skipped, so the number is written with digits only.
      | some r' => some (if r' = r then .nat (Nat.ofDigitChars 10 ds 0) else .other, r')
      | none => none
  | none => none

/-- A number. One with a sign is no natural number, not even zero. -/
def number? : Scanner Datum
  | '-' :: t => (unsigned? t).map fun (_, r) => (.other, r)
  | t => unsigned? t

/-! ### Values -/

/-- A string with its opening quote. -/
def string? : Scanner (Option Text)
  | '"' :: t => quoted? t
  | _ => none

/-- A key and its value, with white space around them. The key may stand for no text. -/
def keyed? (value? : Scanner Datum) : Scanner (Option Text × Datum) := fun t =>
  match string? (skipBlanks t) with
  | some (key, r) =>
    match skipBlanks r with
    | ':' :: r => (value? r).map fun (v, r) => ((key, v), r)
    | _ => none
  | none => none

/-- The entries of a table, if each key stands for a text. -/
def entries? (es : List (Option Text × Datum)) : Option (List (String × Datum)) :=
  es.mapM fun (key, v) => key.map fun k => (String.ofList k, v)

/-- What is behind the bracket that closes a row of items. -/
def close? {α : Type} (bracket : Char) (row : List α × Text) : Option (List α × Text) :=
  match row with
  | (as, c :: r) => if c = bracket then some (as, r) else none
  | (_, []) => none

/-- A value with white space around it, in which others are nested up to some depth. -/
def value? : Nat → Scanner Datum
  | 0, _ => none
  | depth + 1, t =>
    let found : Option (Datum × Text) :=
      match skipBlanks t with
      | 'n' :: t => (Scanner.word ['u', 'l', 'l'] t).map fun r => (.null, r)
      | 't' :: t => (Scanner.word ['r', 'u', 'e'] t).map fun r => (.bool true, r)
      | 'f' :: t => (Scanner.word ['a', 'l', 's', 'e'] t).map fun r => (.bool false, r)
      | '"' :: t =>
        (quoted? t).map fun (s, r) => (s.elim .other fun s => .string (String.ofList s), r)
      | '[' :: t =>
        match skipBlanks t with
        | ']' :: r => some (.list [], r)
        | t =>
          (close? ']' (Scanner.separated ',' (value? depth) t)).map fun (vs, r) => (.list vs, r)
      | '\x7b' :: t =>
        match skipBlanks t with
        | '\x7d' :: r => some (.table [], r)
        | t =>
          (close? '\x7d' (Scanner.separated ',' (keyed? (value? depth)) t)).map fun (es, r) =>
            ((entries? es).elim .other .table, r)
      | t => number? t
    found.map fun (v, r) => (v, skipBlanks r)

/-- The value that a text writes. -/
def read? (t : Text) : Option Datum :=
  match value? t.length t with
  | some (v, []) => some v
  | _ => none

/-- In JSON a record that is written as a list has no more values than fields, and what says
nothing is null. -/
def dialect : Datum.Dialect where
  allowsSurplus := false
  saysNothing
    | .null => true
    | _ => false

end CodeMarkup.Json
