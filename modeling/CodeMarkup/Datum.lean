import CodeMarkup.Text

/-!
# Data

What a notation for data writes (`CodeMarkup.Datum`): truth values, numbers, strings,
lists and tables. Two notations are in use, and what is read from either is first a
datum.

A *record* has fields with names. It is written as a table of its fields, where
entries that are no fields do not matter, or as a list of their values in the order of
the fields (`CodeMarkup.Datum.fields?`). A *choice* is one name of several; it is
written as a string, or as a table with the name as its only key and nothing said
about it (`CodeMarkup.Datum.choice?`). In what they take for more values than fields
and for nothing the notations differ (`CodeMarkup.Datum.Dialect`).
-/

namespace CodeMarkup

/-- What is written in a notation for data. -/
inductive Datum where
  /-- Nothing. -/
  | null
  /-- A truth value. -/
  | bool (b : Bool)
  /-- A natural number. -/
  | nat (n : Nat)
  /-- A string. -/
  | string (s : String)
  /-- A list. -/
  | list (items : List Datum)
  /-- A table, with its entries in the order in which they are written. -/
  | table (entries : List (String × Datum))
  /-- Anything else: another number, or a string that stands for no text. -/
  | other
  deriving Repr, Inhabited

namespace Datum

/-- In what the notations differ. -/
structure Dialect where
  /-- Whether a record that is written as a list may have values behind its last field. -/
  allowsSurplus : Bool
  /-- Whether a datum says nothing about the choice that it stands behind. -/
  saysNothing : Datum → Bool

/-! ### Single values -/

/-- The truth value that a datum is. -/
def bool? : Datum → Option Bool
  | bool b => some b
  | _ => none

/-- The number that a datum is, if it fits into 64 bits. -/
def nat? : Datum → Option Nat
  | nat n => if n < 0x10000000000000000 then some n else none
  | _ => none

/-- The string that a datum is. -/
def string? : Datum → Option String
  | string s => some s
  | _ => none

/-- The list that a datum is, if all of its items can be read. -/
def list? {α : Type} (item? : Datum → Option α) : Datum → Option (List α)
  | list vs => vs.mapM item?
  | _ => none

/-- The value that a datum has, unless it is nothing. -/
def option? {α : Type} (value? : Datum → Option α) : Datum → Option (Option α)
  | null => some none
  | v => (value? v).map some

/-- The name of a choice. -/
def choice? (d : Dialect) : Datum → Option String
  | string name => some name
  | table [(name, v)] => if d.saysNothing v then some name else none
  | _ => none

/-! ### Records -/

/-- The value of a key in the entries of a table, which may not have it twice. -/
def valueOf? (entries : List (String × Datum)) (key : String) : Option (Option Datum) :=
  match entries.filter (·.1 = key) with
  | [] => some none
  | [(_, v)] => some (some v)
  | _ => none

/-- What a datum says about the fields of a record, field by field. -/
def fields? (d : Dialect) (names : List String) : Datum → Option (List (Option Datum))
  | table entries => names.mapM (valueOf? entries)
  | list vs =>
    if vs.length ≤ names.length ∨ d.allowsSurplus then
      some ((vs.map some ++ List.replicate names.length none).take names.length)
    else none
  | _ => none

/-- The value of a field that has to be there. -/
def required {α : Type} (value? : Datum → Option α) (field : Option Datum) : Option α :=
  field.bind value?

/-- The value of a field that may be missing. -/
def optional {α : Type} (default : α) (value? : Datum → Option α) : Option Datum → Option α
  | some v => value? v
  | none => some default

end Datum

end CodeMarkup
