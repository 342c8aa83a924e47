import CodeMarkup.Json.Text

/-!
# Writing JSON

The written form of the values that are shown: strings, numbers, nothing, and tables
with an entry on each line (`CodeMarkup.Json.object`).
-/

namespace CodeMarkup.Json

/-- Nothing. -/
def nothing : Text := ['n', 'u', 'l', 'l']

/-- A number in digits. -/
def numeral (n : Nat) : Text := Nat.toDigits 10 n

/-- An entry on a line of its own, behind `indent`. -/
def entryLine (indent : Text) (entry : Text × Text) : Text :=
  indent ++ quote entry.1 ++ [':', ' '] ++ entry.2

/-- A table of keys and written values, with its entries two spaces deeper than `indent`. -/
def object (indent : Text) (entries : List (Text × Text)) : Text :=
  ['\x7b', '\n'] ++ Text.join [',', '\n'] (entries.map (entryLine (indent ++ [' ', ' ']))) ++
    ['\n'] ++ indent ++ ['\x7d']

end CodeMarkup.Json
