import CodeMarkup.Numeral

/-!
# The digits of a number

What the notations need to know of a number in base 10: it begins with a digit
(`CodeMarkup.exists_cons_toDigits`), and not with a zero unless it is zero
(`CodeMarkup.head?_toDigits_ne`).
-/

namespace CodeMarkup

/-- A number begins with a digit. -/
theorem exists_cons_toDigits (n : Nat) : ∃ d ds, Nat.toDigits 10 n = d :: ds ∧ d.isDigit := by
  cases hds : Nat.toDigits 10 n with
  | nil => exact absurd hds Nat.toDigits_ne_nil
  | cons d ds =>
    exact ⟨d, ds, rfl, Nat.isDigit_of_mem_toDigits (b := 10) (n := n) (by decide) (by decide)
      (by simp [hds])⟩

/-- The first digit of a number is no zero, unless it is the number. -/
theorem head?_toDigits_ne {n : Nat} (hn : 0 < n) : (Nat.toDigits 10 n).head? ≠ some '0' := by
  induction n using Nat.strongRecOn with
  | ind n ih =>
    by_cases hlt : n < 10
    · rw [Nat.toDigits_of_lt_base hlt]
      have hdigit : ∀ m < 10, 0 < m → [Nat.digitChar m].head? ≠ some '0' := by decide
      exact hdigit n hlt hn
    · have hle : 10 ≤ n := Nat.le_of_not_lt hlt
      have ih := ih (n / 10) (Nat.div_lt_self hn (by decide)) (by omega)
      rw [Nat.toDigits_of_base_le (by decide) hle, List.head?_append]
      cases hhead : (Nat.toDigits 10 (n / 10)).head? with
      | none => simp [Nat.toDigits_ne_nil] at hhead
      | some c =>
        rw [hhead] at ih
        exact ih

end CodeMarkup
