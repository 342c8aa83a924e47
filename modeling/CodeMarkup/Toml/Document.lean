import CodeMarkup.Toml.Value

/-!
# TOML documents

A document has values, and then sections: a header, and the values behind it
(`CodeMarkup.Toml.Document`). Every line has a value, a header or nothing, and perhaps a
comment.

Reading is done in two steps. `CodeMarkup.Toml.Document.read?` makes a document of a
text, and `CodeMarkup.Toml.Document.datum?` finds out what the document says, where
all that was said twice is refused. `CodeMarkup.Toml.Document.write?` makes a text of a
document again. It knows the values that it needs: truth values, numbers that fit into
an integer, strings and lists of strings.
-/

namespace CodeMarkup.Toml

/-- A header with the values behind it. -/
structure Section where
  /-- The name of the table. -/
  path : List String
  /-- Whether the table is one more in an array. -/
  isElement : Bool
  /-- The keys and their values. -/
  entries : List (List String × Datum)

/-- The values before the first header, and the sections. -/
structure Document where
  /-- The keys and their values before the first header. -/
  entries : List (List String × Datum)
  /-- The sections. -/
  sections : List Section

/-! ### Lines -/

/-- What a line says. -/
inductive Line where
  /-- Nothing. -/
  | blank
  /-- The value of a key. -/
  | entry (key : List String) (v : Datum)
  /-- The header of a table, or of one more table in an array. -/
  | header (path : List String) (isElement : Bool)

/-- What is behind the end of a line, before which there may be a comment. -/
def lineEnd? (t : Text) : Option Text :=
  let r :=
    match skipBlanks t with
    | '#' :: t => t.dropWhile fun c => !isControl c
    | t => t
  match r with
  | [] => some []
  | '\n' :: r => some r
  | '\r' :: '\n' :: r => some r
  | _ => none

/-- What the first line of a text says, up to its end. -/
def content? : Scanner Line := fun t =>
  match skipBlanks t with
  | [] => some (.blank, [])
  | '[' :: '[' :: t =>
    match key? t with
    | some (path, ']' :: ']' :: r) => some (.header path true, r)
    | _ => none
  | '[' :: t =>
    match key? t with
    | some (path, ']' :: r) => some (.header path false, r)
    | _ => none
  | c :: t =>
    if c = '#' ∨ c = '\n' ∨ c = '\r' then some (.blank, c :: t)
    else (keyed? value? (c :: t)).map fun ((key, v), r) => (.entry key v, r)

/-- What the first line of a text says, and the lines behind it. -/
def line? : Scanner Line := fun t =>
  match content? t with
  | some (line, r) => (lineEnd? r).map fun r => (line, r)
  | none => none

/-- What so many lines say, if the text has no more. -/
def lines? : Nat → Text → Option (List Line)
  | _, [] => some []
  | 0, _ :: _ => none
  | n + 1, c :: t =>
    match line? (c :: t) with
    | some (line, r) => (lines? n r).map (line :: ·)
    | none => none

namespace Document

/-! ### Reading -/

/-- The document that lines make. -/
def ofLines : List Line → Document
  | [] => ⟨[], []⟩
  | .blank :: ls => ofLines ls
  | .entry key v :: ls =>
    let d := ofLines ls
    { d with entries := (key, v) :: d.entries }
  | .header path isElement :: ls =>
    let d := ofLines ls
    ⟨[], ⟨path, isElement, d.entries⟩ :: d.sections⟩

/-- The document that a text writes. A text has no more lines than characters. A byte order
mark in front does not count. -/
def read? (t : Text) : Option Document :=
  let t :=
    match t with
    | '\ufeff' :: t => t
    | t => t
  (lines? t.length t).map ofLines

/-- The entries of a document with a section. -/
def addSection (es : Entries) (s : Section) : Option Entries :=
  if s.isElement then openElement s.path s.entries es else openTable s.path s.entries es

/-- What a document says. -/
def datum? (d : Document) : Option Datum := do
  let es ← putAll d.entries []
  let es ← d.sections.foldlM addSection es
  return .table (entriesData es)

/-! ### Writing -/

/-- A list of strings: on one line if there is no more than one. -/
def writeStrings : List Text → Text
  | [] => ['[', ']']
  | [t] => '[' :: writeString t ++ [']']
  | ts => ['[', '\n'] ++ ts.flatMap (fun t => "    ".toList ++ writeString t ++ [',', '\n']) ++ [']']

/-- A value, if it is one of those that are written. -/
def writeValue? : Datum → Option Text
  | .bool true => some ['t', 'r', 'u', 'e']
  | .bool false => some ['f', 'a', 'l', 's', 'e']
  | .nat n => if n < 0x8000000000000000 then some (Nat.toDigits 10 n) else none
  | .string s => some (writeString s.toList)
  | .list vs => (vs.mapM Datum.string?).map fun ss => writeStrings (ss.map String.toList)
  | _ => none

/-- A key. -/
def writeKey (key : List String) : Text :=
  Text.join ['.'] (key.map fun part => Toml.writeKey part.toList)

/-- The line of a key and its value. -/
def writeLine? (entry : List String × Datum) : Option Text :=
  (writeValue? entry.2).map fun v => writeKey entry.1 ++ [' ', '=', ' '] ++ v ++ ['\n']

/-- The lines of keys and their values. -/
def writeLines? (entries : List (List String × Datum)) : Option Text :=
  (entries.mapM writeLine?).map List.flatten

/-- The line of a header. -/
def writeHeader (path : List String) (isElement : Bool) : Text :=
  if isElement then ['[', '['] ++ writeKey path ++ [']', ']', '\n']
  else '[' :: writeKey path ++ [']', '\n']

/-- The lines of a section. -/
def writeSection? (s : Section) : Option Text :=
  (writeLines? s.entries).map (writeHeader s.path s.isElement ++ ·)

/-- The lines of a document, with an empty line between the values without a header and the
sections, and between any two sections. -/
def write? (d : Document) : Option Text := do
  let front ← writeLines? d.entries
  let sections ← d.sections.mapM writeSection?
  return Text.join ['\n'] (if front = [] then sections else front :: sections)

end Document

/-- In TOML a record that is written as a list may have values behind its last field, and what
says nothing is an empty table or an empty array. -/
def dialect : Datum.Dialect where
  allowsSurplus := true
  saysNothing
    | .table [] => true
    | .list [] => true
    | _ => false

/-- The value that a text writes. -/
def read? (t : Text) : Option Datum := (Document.read? t).bind Document.datum?

end CodeMarkup.Toml
