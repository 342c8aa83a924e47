import CodeMarkup.Unicode.Category
import CodeMarkup.Unicode.Script
import CodeMarkup.Unicode.Property
import CodeMarkup.Unicode.Age
import CodeMarkup.Unicode.GraphemeBreak
import CodeMarkup.Unicode.WordBreak
import CodeMarkup.Unicode.SentenceBreak

/-!
# Properties by name

A *character property* (`CodeMarkup.Unicode.CharProperty`) is one of the
questions about a character that a pattern may ask with `\p`: is it of one of
these general categories, of this script, alphabetic, assigned by this version?

Names of properties and values are compared loosely: case, spaces, hyphens, low
lines and a leading "is" make no difference
(`CodeMarkup.Unicode.looseName`). A lone name is that of a yes-or-no property,
else of a category, else of a script (`CodeMarkup.Unicode.CharProperty.ofName?`).
-/

namespace CodeMarkup.Unicode

/-- A question about a character. -/
inductive CharProperty where
  /-- Every character. -/
  | any
  /-- The characters below 128. -/
  | ascii
  /-- The characters of one of these categories. -/
  | category (cs : List Category)
  /-- The characters of this script. -/
  | script (s : Script)
  /-- The characters that this script uses. -/
  | scriptExtension (s : Script)
  /-- The characters with this yes-or-no property. -/
  | binary (p : BinaryProperty)
  /-- The characters assigned by one of these versions. -/
  | age (versions : List String)
  /-- The characters with this grapheme cluster break. -/
  | graphemeBreak (value : String)
  /-- The characters with this word break. -/
  | wordBreak (value : String)
  /-- The characters with this sentence break. -/
  | sentenceBreak (value : String)
  deriving DecidableEq, Repr

namespace CharProperty

/-- Whether `c` has the property. -/
def contains : CharProperty → Char → Bool
  | any, _ => true
  | ascii, c => c.toNat < 128
  | category cs, c => cs.contains (Unicode.category c)
  | script s, c => Unicode.script c.toNat = s
  | scriptExtension s, c => (scriptExtensions c.toNat).contains s
  | binary p, c => p.holds c
  | age versions, c => versions.contains ((ageTable.get? c.toNat).getD "")
  | graphemeBreak v, c => graphemeBreakTable.get? c.toNat = some v
  | wordBreak v, c => wordBreakTable.get? c.toNat = some v
  | sentenceBreak v, c => sentenceBreakTable.get? c.toNat = some v

/-- The intervals of code points, both ends included and in ascending order, on
which the property holds. -/
def intervals : CharProperty → List (Nat × Nat)
  | any => [(0, 0x10ffff)]
  | ascii => [(0, 127)]
  | category cs => categoryTable.intervals cs.contains
  | script s => scriptTable.intervals (· = s)
  | scriptExtension s =>
    extensionTable.toList.flatMap fun (start, last, codes) =>
      if codes.isEmpty then
        (scriptTable.intervals (· = s)).filterMap fun (a, b) =>
          if max a start ≤ min b last then some (max a start, min b last) else none
      else if codes.contains s then [(start, last)] else []
  | binary p => p.table.intervals id
  | age versions => ageTable.intervals versions.contains
  | graphemeBreak v => graphemeBreakTable.intervals (· = v)
  | wordBreak v => wordBreakTable.intervals (· = v)
  | sentenceBreak v => sentenceBreakTable.intervals (· = v)

end CharProperty

/-! ### Names -/

/-- A name without what makes no difference between names: case, spaces, hyphens,
low lines, characters beyond 127 and a leading "is". The one name that would
become "c" by losing its "is" keeps it. -/
def looseName (name : String) : String :=
  let bare (cs : List Char) : List Char :=
    (cs.filter fun c => c ≠ ' ' ∧ c ≠ '_' ∧ c ≠ '-' ∧ c.toNat < 128).map Char.toLower
  match name.toList with
  | i :: s :: rest =>
    if (i = 'i' ∨ i = 'I') ∧ (s = 's' ∨ s = 'S') then
      if bare rest = ['c'] then "isc" else String.ofList (bare rest)
    else String.ofList (bare (i :: s :: rest))
  | short => String.ofList (bare short)

/-- The entry of a list of named values one of whose names is `name`, loosely. -/
def findNamed? {α : Type} (entries : List (α × List String)) (name : String) : Option α :=
  (entries.find? fun (_, names) => names.any fun n => looseName n = looseName name).map (·.1)

/-- The names of the categories and of the groups of categories. No character is a
surrogate, so that category has no name here. -/
def categoryNames : List (List Category × List String) :=
  let letters := [.uppercaseLetter, .lowercaseLetter, .titlecaseLetter]
  let marks := [.nonspacingMark, .spacingMark, .enclosingMark]
  [ ([.control, .format, .surrogate, .privateUse, .unassigned], ["C", "Other"]),
    ([.control], ["Cc", "Control", "cntrl"]),
    ([.format], ["Cf", "Format"]),
    ([.unassigned], ["Cn", "Unassigned"]),
    ([.privateUse], ["Co", "Private_Use"]),
    (letters ++ [.modifierLetter, .otherLetter], ["L", "Letter"]),
    (letters, ["LC", "Cased_Letter"]),
    ([.lowercaseLetter], ["Ll", "Lowercase_Letter"]),
    ([.modifierLetter], ["Lm", "Modifier_Letter"]),
    ([.otherLetter], ["Lo", "Other_Letter"]),
    ([.titlecaseLetter], ["Lt", "Titlecase_Letter"]),
    ([.uppercaseLetter], ["Lu", "Uppercase_Letter"]),
    (marks, ["M", "Mark", "Combining_Mark"]),
    ([.spacingMark], ["Mc", "Spacing_Mark"]),
    ([.enclosingMark], ["Me", "Enclosing_Mark"]),
    ([.nonspacingMark], ["Mn", "Nonspacing_Mark"]),
    ([.decimalNumber, .letterNumber, .otherNumber], ["N", "Number"]),
    ([.decimalNumber], ["Nd", "Decimal_Number", "digit"]),
    ([.letterNumber], ["Nl", "Letter_Number"]),
    ([.otherNumber], ["No", "Other_Number"]),
    ([.connectorPunctuation, .dashPunctuation, .openPunctuation, .closePunctuation,
      .initialPunctuation, .finalPunctuation, .otherPunctuation],
      ["P", "Punctuation", "punct"]),
    ([.connectorPunctuation], ["Pc", "Connector_Punctuation"]),
    ([.dashPunctuation], ["Pd", "Dash_Punctuation"]),
    ([.closePunctuation], ["Pe", "Close_Punctuation"]),
    ([.finalPunctuation], ["Pf", "Final_Punctuation"]),
    ([.initialPunctuation], ["Pi", "Initial_Punctuation"]),
    ([.otherPunctuation], ["Po", "Other_Punctuation"]),
    ([.openPunctuation], ["Ps", "Open_Punctuation"]),
    ([.mathSymbol, .currencySymbol, .modifierSymbol, .otherSymbol], ["S", "Symbol"]),
    ([.currencySymbol], ["Sc", "Currency_Symbol"]),
    ([.modifierSymbol], ["Sk", "Modifier_Symbol"]),
    ([.mathSymbol], ["Sm", "Math_Symbol"]),
    ([.otherSymbol], ["So", "Other_Symbol"]),
    ([.spaceSeparator, .lineSeparator, .paragraphSeparator], ["Z", "Separator"]),
    ([.lineSeparator], ["Zl", "Line_Separator"]),
    ([.paragraphSeparator], ["Zp", "Paragraph_Separator"]),
    ([.spaceSeparator], ["Zs", "Space_Separator"]) ]

namespace CharProperty

/-- The categories that `name` names, loosely; three more names stand for all
characters, for the assigned ones and for those below 128. -/
def ofCategoryName? (name : String) : Option CharProperty :=
  match looseName name with
  | "any" => some .any
  | "assigned" => some (.category (Category.all.filter (· ≠ .unassigned)))
  | "ascii" => some .ascii
  | _ => (findNamed? categoryNames name).map .category

/-- The property that a lone name means: a yes-or-no property, else a category,
else a script. -/
def ofName? (name : String) : Option CharProperty :=
  ((findNamed? BinaryProperty.names name).map .binary).orElse fun _ =>
    (ofCategoryName? name).orElse fun _ =>
      (findNamed? scriptNames name).map .script

/-- The versions up to and with the one that `value` names. -/
def versionsUpTo? (value : String) : Option (List String) :=
  (findNamed? (ageVersions.map fun v => (v, ageNames v)) value).map fun version =>
    ageVersions.takeWhile (· ≠ version) ++ [version]

/-- The property that a name and a value mean. -/
def ofNameAndValue? (name value : String) : Option CharProperty :=
  match looseName name with
  | "gc" | "generalcategory" => ofCategoryName? value
  | "sc" | "script" => (findNamed? scriptNames value).map .script
  | "scx" | "scriptextensions" => (findNamed? scriptNames value).map .scriptExtension
  | "age" => (versionsUpTo? value).map .age
  | "gcb" | "graphemeclusterbreak" => (findNamed? graphemeBreakNames value).map .graphemeBreak
  | "wb" | "wordbreak" => (findNamed? wordBreakNames value).map .wordBreak
  | "sb" | "sentencebreak" => (findNamed? sentenceBreakNames value).map .sentenceBreak
  | _ => none

end CharProperty

end CodeMarkup.Unicode
