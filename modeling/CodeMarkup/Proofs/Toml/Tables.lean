import CodeMarkup.Toml.Document
import Mathlib.Data.List.Nodup

/-!
# What sections add to a document

A section with a header for a table adds the table behind what is there
(`CodeMarkup.Toml.openTable_simple`). The tables of an array come one after the other, each
with a header (`CodeMarkup.Toml.foldlM_openElement`), and a table in such an array may have
an array of its own, made by headers behind its own one
(`CodeMarkup.Toml.foldlM_openElement_cons`).

All of that is about sections whose keys have no points and are said once. An array of
tables with headers is there only if it has a table
(`CodeMarkup.Toml.withTables`): there is no header for an array without any.
-/

namespace CodeMarkup.Toml

/-! ### Values with simple keys -/

/-- Values with keys that have no points. -/
def simple (kvs : List (String × Datum)) : List (List String × Datum) :=
  kvs.map fun e => ([e.1], e.2)

/-- The entries of a table with values in it. -/
def valueEntries (kvs : List (String × Datum)) : Entries := kvs.map fun e => (e.1, .value e.2)

theorem entriesData_append (es es' : Entries) :
    entriesData (es ++ es') = entriesData es ++ entriesData es' := by
  induction es with
  | nil => rfl
  | cons e es ih => rw [List.cons_append, entriesData, entriesData, ih, List.cons_append]

@[simp]
theorem entriesData_valueEntries (kvs : List (String × Datum)) :
    entriesData (valueEntries kvs) = kvs := by
  induction kvs with
  | nil => rfl
  | cons e kvs ih =>
    change (e.1, e.2) :: entriesData (valueEntries kvs) = _
    rw [ih]

theorem lookup_valueEntries {key : String} {kvs : List (String × Datum)}
    (hkey : key ∉ kvs.map Prod.fst) : (valueEntries kvs).lookup key = none := by
  rw [List.lookup_eq_none_iff]
  intro p hp
  obtain ⟨e, he, rfl⟩ := List.mem_map.1 hp
  rw [bne_iff_ne]
  rintro rfl
  exact hkey (List.mem_map_of_mem he)

/-- A value whose key is new comes behind the others. -/
theorem put_simple {key : String} {es : Entries} (hkey : es.lookup key = none) (v : Datum) :
    put [key] v es = some (es ++ [(key, .value v)]) := by
  simp [put, update, hkey]

/-- Values whose keys are new come behind the others. -/
theorem putAll_simple {kvs : List (String × Datum)} (hkeys : (kvs.map Prod.fst).Nodup)
    {es : Entries} (hes : ∀ e ∈ kvs, es.lookup e.1 = none) :
    putAll (simple kvs) es = some (es ++ valueEntries kvs) := by
  induction kvs generalizing es with
  | nil => simp [simple, valueEntries, putAll]
  | cons e kvs ih =>
    obtain ⟨he, hkeys⟩ := List.nodup_cons.1 hkeys
    have hput := put_simple (hes e List.mem_cons_self) e.2
    have hrest : ∀ e' ∈ kvs, (es ++ [(e.1, Node.value e.2)]).lookup e'.1 = none := by
      intro e' he'
      have hne : e'.1 ≠ e.1 := fun h => he (h ▸ List.mem_map_of_mem he')
      rw [List.lookup_append, hes e' (List.mem_cons_of_mem _ he'), List.lookup_cons,
        beq_eq_false_iff_ne.2 hne]
      rfl
    have hfold : putAll (simple (e :: kvs)) es =
        (put [e.1] e.2 es).bind fun es => putAll (simple kvs) es := rfl
    rw [hfold, hput, Option.bind_some, ih hkeys hrest, List.append_assoc]
    rfl

theorem putAll_simple_nil {kvs : List (String × Datum)} (hkeys : (kvs.map Prod.fst).Nodup) :
    putAll (simple kvs) [] = some (valueEntries kvs) :=
  putAll_simple hkeys fun _ _ => rfl

/-! ### Tables -/

/-- **A table with a header** comes behind what is there, if its name is new. -/
theorem openTable_simple {key : String} {es : Entries} (hkey : es.lookup key = none)
    {kvs : List (String × Datum)} (hkeys : (kvs.map Prod.fst).Nodup) :
    openTable [key] (simple kvs) es = some (es ++ [(key, .table .header (valueEntries kvs))]) := by
  simp [openTable, update, hkey, putAll_simple_nil hkeys]

/-! ### Arrays of tables -/

/-- The entries of a table with an array of tables behind them, if the array has any. -/
def withTables (key : String) (tables : List Entries) (es : Entries) : Entries :=
  match tables.getLast? with
  | none => es
  | some last => es ++ [(key, .array tables.dropLast last)]

theorem withTables_nil (key : String) (es : Entries) : withTables key [] es = es := rfl

theorem withTables_append_singleton (key : String) (tables : List Entries) (last es : Entries) :
    withTables key (tables ++ [last]) es = es ++ [(key, .array tables last)] := by
  simp [withTables]

theorem lookup_append_singleton {key : String} {es : Entries} (hkey : es.lookup key = none)
    (node : Node) : (es ++ [(key, node)]).lookup key = some node := by
  rw [List.lookup_append, hkey, List.lookup_cons, beq_self_eq_true]
  rfl

theorem set_append_singleton {key : String} {es : Entries} (hkey : es.lookup key = none)
    (node node' : Node) : set key node' (es ++ [(key, node)]) = es ++ [(key, node')] := by
  have hes : ∀ e ∈ es, (if e.1 = key then (key, node') else e) = e := by
    intro e he
    refine if_neg fun h => ?_
    have hne := List.lookup_eq_none_iff.1 hkey e he
    rw [h, bne_self_eq_false] at hne
    cases hne
  rw [set, List.map_append, List.map_congr_left hes, List.map_id']
  simp

/-- One more table comes behind the others. -/
theorem openElement_simple {key : String} {es : Entries} (hkey : es.lookup key = none)
    (tables : List Entries) {kvs : List (String × Datum)} (hkeys : (kvs.map Prod.fst).Nodup) :
    openElement [key] (simple kvs) (withTables key tables es) =
      some (withTables key (tables ++ [valueEntries kvs]) es) := by
  rw [withTables_append_singleton]
  rcases List.eq_nil_or_concat' tables with rfl | ⟨earlier, last, rfl⟩
  · simp [openElement, update, withTables_nil, hkey, putAll_simple_nil hkeys]
  · simp [openElement, update, withTables_append_singleton, lookup_append_singleton hkey,
      set_append_singleton hkey, putAll_simple_nil hkeys]

/-- A path that goes through an array goes through its last table. -/
theorem update_array {key : String} {es : Entries} (hkey : es.lookup key = none)
    (tables : List Entries) (last : Entries) (dotted : Bool)
    (change : Origin → Entries → Option Entries) (path : List String) (origin : Origin) :
    update dotted change (key :: path) origin (es ++ [(key, .array tables last)]) =
      (update dotted change path .header last).map fun last =>
        es ++ [(key, .array tables last)] := by
  rw [update, lookup_append_singleton hkey]
  dsimp only
  simp only [set_append_singleton hkey]

/-- A header for a table inside of the last table of an array changes that table. -/
theorem openElement_cons {key : String} {es : Entries} (hkey : es.lookup key = none)
    (tables : List Entries) (last : Entries) (key' : String) (kvs : List (List String × Datum)) :
    openElement [key, key'] kvs (withTables key (tables ++ [last]) es) =
      (openElement [key'] kvs last).map fun last => withTables key (tables ++ [last]) es := by
  simp only [withTables_append_singleton]
  exact update_array hkey tables last false _ [] .header

/-- **The tables of an array**, one after the other. -/
theorem foldlM_openElement {key : String} {es : Entries} (hkey : es.lookup key = none)
    (tables : List Entries) {kvss : List (List (String × Datum))}
    (hkeys : ∀ kvs ∈ kvss, (kvs.map Prod.fst).Nodup) :
    kvss.foldlM (fun es kvs => openElement [key] (simple kvs) es) (withTables key tables es) =
      some (withTables key (tables ++ kvss.map valueEntries) es) := by
  induction kvss generalizing tables with
  | nil => simp
  | cons kvs kvss ih =>
    rw [List.foldlM_cons, openElement_simple hkey tables (hkeys kvs List.mem_cons_self)]
    refine (ih _ fun kvs h => hkeys kvs (List.mem_cons_of_mem _ h)).trans ?_
    rw [List.map_cons, List.append_assoc, List.singleton_append]

/-- **The tables of an array inside of another**: all of them belong to the last table of the
other. -/
theorem foldlM_openElement_cons {key : String} {es : Entries} (hkey : es.lookup key = none)
    (tables : List Entries) (last : Entries) (key' : String)
    (kvss : List (List (List String × Datum))) :
    kvss.foldlM (fun es kvs => openElement [key, key'] kvs es)
        (withTables key (tables ++ [last]) es) =
      (kvss.foldlM (fun es kvs => openElement [key'] kvs es) last).map fun last =>
        withTables key (tables ++ [last]) es := by
  induction kvss generalizing last with
  | nil => rfl
  | cons kvs kvss ih =>
    rw [List.foldlM_cons, List.foldlM_cons, openElement_cons hkey]
    cases openElement [key'] kvs last with
    | none => rfl
    | some last => exact ih last

/-! ### What is in a table -/

theorem tablesData_eq_map (tables : List Entries) :
    tablesData tables = tables.map fun es => .table (entriesData es) := by
  induction tables with
  | nil => rfl
  | cons es tables ih => rw [tablesData, ih, List.map_cons]

/-- What entries with an array of tables behind them say. -/
theorem entriesData_withTables (key : String) (tables : List Entries) (es : Entries) :
    entriesData (withTables key tables es) =
      entriesData es ++
        if tables = [] then []
        else [(key, .list (tables.map fun es => .table (entriesData es)))] := by
  rcases List.eq_nil_or_concat' tables with rfl | ⟨earlier, last, rfl⟩
  · simp [withTables_nil]
  · rw [withTables_append_singleton, entriesData_append, if_neg (by simp), List.map_append,
      ← tablesData_eq_map]
    rfl

end CodeMarkup.Toml
