import CodeMarkup.Datum

/-!
# The tables of a TOML document

Tables grow while a document is read, and how far one may still be changed depends on
where it comes from (`CodeMarkup.Toml.Origin`):

* a table with a header of its own is complete when its section ends, but other
  headers may name tables inside of it;
* a table that a longer header implies may have a header of its own, once;
* a table that a key with points implies takes more keys with points in the same
  section, and no header.

A value is never changed, a table in braces neither. In an array of tables that headers
have made, a name means the last one. `CodeMarkup.Toml.update` finds a table by its
names and changes it; `CodeMarkup.Toml.put`, `CodeMarkup.Toml.openTable` and
`CodeMarkup.Toml.openElement` are the three ways to change one.
-/

namespace CodeMarkup.Toml

/-- Where a table comes from. -/
inductive Origin where
  /-- A header of its own, or the document. -/
  | header
  /-- A header of a table inside of it. -/
  | implied
  /-- A key with points. -/
  | dotted
  deriving DecidableEq, Repr

/-- What a name stands for. -/
inductive Node where
  /-- A value. -/
  | value (v : Datum)
  /-- A table. -/
  | table (origin : Origin) (entries : List (String × Node))
  /-- An array of tables with headers, the last one apart. -/
  | array (earlier : List (List (String × Node))) (last : List (String × Node))
  deriving Inhabited

/-- The entries of a table. -/
abbrev Entries := List (String × Node)

/-- The entries with another node for a key. -/
def set (key : String) (node : Node) (es : Entries) : Entries :=
  es.map fun e => if e.1 = key then (key, node) else e

/-- The entries of a table with a change to the one at the end of a path. Tables that are not
there yet are made; `dotted` says that the path is one of a key with points. -/
def update (dotted : Bool) (change : Origin → Entries → Option Entries) :
    List String → Origin → Entries → Option Entries
  | [], origin, es => change origin es
  | key :: path, _, es =>
    match es.lookup key with
    | none =>
      let origin := if dotted then .dotted else .implied
      (update dotted change path origin []).map fun sub => es ++ [(key, .table origin sub)]
    | some (.value _) => none
    | some (.table origin sub) =>
      if dotted ∧ origin = .header then none
      else
        (update dotted change path origin sub).map fun sub => set key (.table origin sub) es
    | some (.array earlier last) =>
      -- The tables before the last one are complete.
      (update dotted change path .header last).map fun last => set key (.array earlier last) es

/-- The entries of a table with a value for a key, which may have points. The last part of the
key must be new, and in a table of the same kind as the key. -/
def put (key : List String) (v : Datum) (es : Entries) : Option Entries :=
  match key.getLast? with
  | none => none
  | some name =>
    let path := key.dropLast
    update true (fun origin es =>
      -- A key without points goes into the section itself, one with points into a table
      -- that keys with points have made.
      if origin = .dotted ↔ path = [] then none
      else
        match es.lookup name with
        | none => some (es ++ [(name, .value v)])
        | some _ => none) path .header es

/-- The entries of a table with a value for each of the keys. -/
def putAll (kvs : List (List String × Datum)) (es : Entries) : Option Entries :=
  kvs.foldlM (fun es (key, v) => put key v es) es

/-- The entries of a document with a table that has a header, and the values in its section. -/
def openTable (path : List String) (kvs : List (List String × Datum)) (es : Entries) :
    Option Entries :=
  match path.getLast? with
  | none => none
  | some name =>
    update false (fun _ es =>
      match es.lookup name with
      | none => (putAll kvs []).map fun sub => es ++ [(name, .table .header sub)]
      | some (.table .implied sub) =>
        -- The header comes after those of the tables inside of it, and comes once.
        (putAll kvs sub).map fun sub => set name (.table .header sub) es
      | some _ => none) path.dropLast .header es

/-- The entries of a document with one more table in an array, and the values in its section. -/
def openElement (path : List String) (kvs : List (List String × Datum)) (es : Entries) :
    Option Entries :=
  match path.getLast? with
  | none => none
  | some name =>
    update false (fun _ es =>
      match es.lookup name with
      | none => (putAll kvs []).map fun sub => es ++ [(name, .array [] sub)]
      | some (.array earlier last) =>
        (putAll kvs []).map fun sub => set name (.array (earlier ++ [last]) sub) es
      | some _ => none) path.dropLast .header es

mutual

/-- What a node says. -/
def Node.datum : Node → Datum
  | .value v => v
  | .table _ es => .table (entriesData es)
  | .array earlier last => .list (tablesData earlier ++ [.table (entriesData last)])

/-- What entries say. -/
def entriesData : List (String × Node) → List (String × Datum)
  | [] => []
  | (key, node) :: es => (key, node.datum) :: entriesData es

/-- What tables say. -/
def tablesData : List (List (String × Node)) → List Datum
  | [] => []
  | es :: tables => .table (entriesData es) :: tablesData tables

end

end CodeMarkup.Toml
