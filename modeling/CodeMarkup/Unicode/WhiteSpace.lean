import CodeMarkup.Text

/-!
# White space

The characters that are white space (`CodeMarkup.Unicode.isWhiteSpace`), listed
one by one: they have not changed for many versions of the standard, and a text
is trimmed of exactly these.
-/

namespace CodeMarkup.Unicode

/-- The white space below 128: the space, and the controls from tab to carriage return. -/
def isAsciiSpace (c : Char) : Bool := c = ' ' || ('\t' ≤ c && c ≤ '\r')

/-- White space: 25 characters. -/
def isWhiteSpace (c : Char) : Bool :=
  isAsciiSpace c || c = '\u0085' || c = '\u00a0' || c = '\u1680' ||
    ('\u2000' ≤ c && c ≤ '\u200a') || c = '\u2028' || c = '\u2029' || c = '\u202f' ||
    c = '\u205f' || c = '\u3000'

/-- A text without the white space at its two ends. -/
def trim (t : Text) : Text :=
  ((t.dropWhile isWhiteSpace).reverse.dropWhile isWhiteSpace).reverse

end CodeMarkup.Unicode
