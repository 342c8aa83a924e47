import CodeMarkup.Unicode.Category
import CodeMarkup.Unicode.Property

/-!
# Quoted texts

A text between double quotes as a message shows it (`CodeMarkup.quoted`): quotes,
backslashes and control characters are escaped, and so is every character that
could not be seen, or would be drawn upon the one before it.
-/

namespace CodeMarkup

/-- Whether a character can be seen when it is printed: it is no control or format
character, is assigned and public, and is no separator other than the space. -/
def isPrintable (c : Char) : Bool :=
  c = ' ' ||
    !([.control, .format, .surrogate, .privateUse, .unassigned, .spaceSeparator, .lineSeparator,
      .paragraphSeparator] : List Unicode.Category).contains (Unicode.category c)

/-- What is written for a character between quotes. -/
def quotedChar (c : Char) : Text :=
  match c with
  | '"' => ['\\', '"']
  | '\\' => ['\\', '\\']
  | '\n' => ['\\', 'n']
  | '\r' => ['\\', 'r']
  | '\t' => ['\\', 't']
  | '\x00' => ['\\', '0']
  | c =>
    if isPrintable c && !Unicode.BinaryProperty.graphemeExtend.holds c then [c]
    else ['\\', 'u', '\x7b'] ++ Nat.toDigits 16 c.toNat ++ ['\x7d']

/-- A text between double quotes. -/
def quoted (s : String) : String := String.ofList ('"' :: s.toList.flatMap quotedChar ++ ['"'])

end CodeMarkup
