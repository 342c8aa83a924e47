import CodeMarkup.Error
import CodeMarkup.Language.Script
import CodeMarkup.Language.Document
import CodeMarkup.Language.Style

/-!
# The registry of languages

A registry (`CodeMarkup.Registry`) knows rule sets by identifiers. A rule set that is
registered gets the next *slot*, for ever; an identifier is bound to a slot, and
binding it again takes it away from the slot it had. An alias is bound to the slot
that its target has at that time, so what becomes of the target later does not
matter to it.

Identifiers that differ in case or in white space around them are the same
(`CodeMarkup.Registry.normalize`).
-/

namespace CodeMarkup

/-- Rule sets and the identifiers they are known by. -/
structure Registry where
  /-- The rule set of each slot. -/
  ruleSets : List RuleSet
  /-- The slot of each identifier, the last one that was bound first. -/
  bindings : List (String × Nat)

namespace Registry

/-- The form of an identifier in which it is compared: without white space at its ends,
and with small letters for the capital ones below 128. -/
def normalize (id : String) : String :=
  String.ofList ((Unicode.trim id.toList).map Char.toLower)

/-- The registry without languages. -/
def empty : Registry := ⟨[], []⟩

/-- The registry with an identifier, in its normal form, bound to a slot. -/
def bind (id : String) (slot : Nat) (r : Registry) : Registry :=
  { r with bindings := (id, slot) :: r.bindings.filter (·.1 ≠ id) }

/-- The slot that an identifier is bound to. -/
def slot? (r : Registry) (id : String) : Option Nat := r.bindings.lookup (normalize id)

/-- The registry with a rule set in a new slot, which all of `ids` are bound to. -/
def register (set : RuleSet) (ids : List String) (r : Registry) : Registry :=
  ids.foldl (fun r' id => r'.bind (normalize id) r.ruleSets.length)
    { r with ruleSets := r.ruleSets ++ [set] }

/-- The registry with an identifier bound to the slot of another one. -/
def addAlias (id target : String) (r : Registry) : Except Error Registry :=
  match r.slot? target with
  | some slot => .ok (r.bind (normalize id) slot)
  | none => .error (.unknownLanguage target)

/-- The slot and the rule set of an identifier. -/
def resolve? (r : Registry) (id : String) : Option (Nat × RuleSet) :=
  (r.slot? id).bind fun slot => (r.ruleSets[slot]?).map fun set => (slot, set)

/-- An identifier resolves to the rule set of its slot. -/
theorem resolve?_eq_some_iff {r : Registry} {id : String} {slot : Nat} {set : RuleSet} :
    r.resolve? id = some (slot, set) ↔ r.slot? id = some slot ∧ r.ruleSets[slot]? = some set := by
  rw [resolve?, Option.bind_eq_some_iff]
  constructor
  · rintro ⟨slot', hslot, hset⟩
    obtain ⟨set', hset', heq⟩ := Option.map_eq_some_iff.1 hset
    cases heq
    exact ⟨hslot, hset'⟩
  · rintro ⟨hslot, hset⟩
    exact ⟨slot, hslot, by rw [hset]; rfl⟩

/-- The name of the rule set of an identifier. -/
def nameOf? (r : Registry) (id : String) : Option String := (r.resolve? id).map (·.2.name)

/-- All identifiers, in ascending order. -/
def identifiers (r : Registry) : List String :=
  (r.bindings.map (·.1)).mergeSort fun a b => a ≤ b

/-! ### Paths -/

/-- The last component of a path. Slashes and points at the end of a path do not count. -/
def lastComponent (path : Text) : Text :=
  match ((Text.splitOn '/' path).filter fun part => part ≠ [] ∧ part ≠ ['.']).getLast? with
  | some part => part
  | none => []

/-- What stands behind the last point of a file name, if something stands before it. -/
def extension? (path : Text) : Option Text :=
  let name := lastComponent path
  if name = ['.', '.'] then none
  else
    match (Text.splitOn '.' name).reverse with
    | ext :: before :: more => if more = [] ∧ before = [] then none else some ext
    | _ => none

/-- The name of the language of a file, found by its extension. -/
def nameForFile? (r : Registry) (path : String) : Option String :=
  (extension? path.toList).bind fun ext => r.nameOf? (String.ofList ext)

/-! ### The languages that need no configuration -/

/-- The registry with the languages for scripts, documents and styles. -/
def builtin : Registry :=
  empty
    |>.register Language.script ["js", "javascript", "jsx", "mjs", "cjs", "ts", "tsx", "typescript"]
    |>.register Language.document ["html", "htm", "xhtml", "xml", "svg"]
    |>.register Language.style ["css", "scss", "less"]

end Registry

end CodeMarkup
