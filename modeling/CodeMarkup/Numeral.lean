import CodeMarkup.Text

/-!
# Numerals

The digits that numbers are written with, and the characters that numbers stand
for. A numeral in a notation with base 10 is read by `Nat.ofDigitChars`, which undoes
`Nat.toDigits`; here are the digits of the other bases.
-/

namespace CodeMarkup

/-- The value of a hexadecimal digit. -/
def hexDigit? (c : Char) : Option Nat :=
  if c.isDigit then some (c.toNat - '0'.toNat)
  else if 'a' ≤ c ∧ c ≤ 'f' then some (c.toNat - 'a'.toNat + 10)
  else if 'A' ≤ c ∧ c ≤ 'F' then some (c.toNat - 'A'.toNat + 10)
  else none

/-- The number that digits write in a base up to 16, behind the digits of the value `n`. -/
def readDigits? (base : Nat) (n : Nat) : Text → Option Nat
  | [] => some n
  | c :: cs =>
    match hexDigit? c with
    | some d => if d < base then readDigits? base (base * n + d) cs else none
    | none => none

/-- The character with a number, if there is one. -/
def charOfNat? (n : Nat) : Option Char :=
  if n < 0xd800 ∨ (0xe000 ≤ n ∧ n < 0x110000) then some (Char.ofNat n) else none

/-- Every character is the one with its number. -/
theorem charOfNat?_toNat (c : Char) : charOfNat? c.toNat = some c := by
  have hv : c.toNat < 0xd800 ∨ (0xe000 ≤ c.toNat ∧ c.toNat < 0x110000) := by
    rcases c.valid with h | ⟨h, h'⟩
    · exact .inl h
    · exact .inr ⟨h, h'⟩
  rw [charOfNat?, if_pos hv, Char.ofNat_toNat]

end CodeMarkup
