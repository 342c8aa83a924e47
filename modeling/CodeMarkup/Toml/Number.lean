import CodeMarkup.Datum
import CodeMarkup.Numeral
import CodeMarkup.Scanner

/-!
# Numbers in TOML

Integers have 64 bits and a sign. Those in base 10 may have one written, and have no
zero in front; the others have the letter of their base behind a zero instead
(`CodeMarkup.Toml.inBase?`). A low line may stand between two digits.

A number with a fraction or an exponent is read for its form only, but it must not be
so large that it would be taken for infinity (`CodeMarkup.Toml.tooLarge`).
-/

namespace CodeMarkup.Toml

/-! ### Digits -/

/-- The digits that a text goes on with, behind a digit. -/
def moreDigits (isDigit : Char → Bool) : Text → Text × Text
  | [] => ([], [])
  | '_' :: d :: t =>
    if isDigit d then
      let (ds, r) := moreDigits isDigit t
      (d :: ds, r)
    else ([], '_' :: d :: t)
  | c :: t =>
    if isDigit c then
      let (ds, r) := moreDigits isDigit t
      (c :: ds, r)
    else ([], c :: t)

/-- One digit or more. -/
def digits? (isDigit : Char → Bool) : Scanner Text
  | [] => none
  | c :: t =>
    if isDigit c then
      let (ds, r) := moreDigits isDigit t
      some (c :: ds, r)
    else none

/-- The digits of an integer in base 10. Behind a zero in front there are no others. -/
def wholeDigits? : Scanner Text
  | '0' :: t => some (['0'], t)
  | t => digits? Char.isDigit t

/-- A sign, if there is one: whether it is a minus. -/
def sign : Text → Bool × Text
  | '+' :: t => (false, t)
  | '-' :: t => (true, t)
  | t => (false, t)

/-! ### Integers -/

/-- The integer with a sign and an absolute value, if it has no more than 64 bits. -/
def signed? (negative : Bool) (n : Nat) : Option Datum :=
  if negative then
    if n = 0 then some (.nat 0) else if n ≤ 0x8000000000000000 then some .other else none
  else if n < 0x8000000000000000 then some (.nat n) else none

/-- An integer in a base other than 10, from its first digit on. -/
def inBase? (base : Nat) : Scanner Datum := fun t =>
  match digits? (fun c => (hexDigit? c).any (· < base)) t with
  | some (ds, r) => ((readDigits? base 0 ds).bind (signed? false)).map fun v => (v, r)
  | none => none

/-! ### Fractions and exponents -/

/-- Whether `n` with its point moved by `places` to the right and `back` to the left is
taken for infinity: it is nearer to `2 ^ 1024` than to the largest number below that has
53 significant bits, or halfway between them. -/
def tooLarge (n places back : Nat) : Bool :=
  let size := (Nat.toDigits 10 n).length + places
  if n = 0 ∨ size < 309 + back then false
  else if 309 + back < size then true
  else
    (Nat.pow 2 1024 - Nat.pow 2 970) * Nat.pow 10 (back - places) ≤ n * Nat.pow 10 (places - back)

/-- The digits of a fraction, if a point says that there is one. -/
def fraction? : Scanner Text
  | '.' :: t => digits? Char.isDigit t
  | t => some ([], t)

/-- An exponent with its sign, if a letter says that there is one. -/
def exponent? : Scanner (Bool × Nat)
  | c :: t =>
    if c = 'e' ∨ c = 'E' then
      let (negative, t) := sign t
      (digits? Char.isDigit t).map fun (ds, r) => ((negative, Nat.ofDigitChars 10 ds 0), r)
    else some ((false, 0), c :: t)
  | [] => some ((false, 0), [])

/-- A number in base 10. -/
def decimal? : Scanner Datum := fun t =>
  let (negative, t) := sign t
  match wholeDigits? t with
  | none => none
  | some (whole, r) =>
    match fraction? r with
    | none => none
    | some (part, r₁) =>
      match exponent? r₁ with
      | none => none
      | some ((down, e), r₂) =>
        if r₂ = r then
          (signed? negative (Nat.ofDigitChars 10 whole 0)).map fun v => (v, r)
        else
          let n := Nat.ofDigitChars 10 (whole ++ part) 0
          let (places, back) := if down then (0, part.length + e) else (e, part.length)
          if !negative && tooLarge n places back then none else some (.other, r₂)

/-- Infinity, or what is no number. -/
def special? (t : Text) : Option Text :=
  (Scanner.word ['i', 'n', 'f'] t).or (Scanner.word ['n', 'a', 'n'] t)

/-- A number. -/
def number? : Scanner Datum
  | '0' :: 'x' :: t => inBase? 16 t
  | '0' :: 'o' :: t => inBase? 8 t
  | '0' :: 'b' :: t => inBase? 2 t
  | t =>
    match special? (sign t).2 with
    | some r => some (.other, r)
    | none => decimal? t

end CodeMarkup.Toml
