import CodeMarkup.Proofs.Numerals
import CodeMarkup.Toml.DateTime
import CodeMarkup.Toml.Number

/-!
# Reading undoes writing, for numbers

A number is written as its digits in base 10, and read as the number
(`CodeMarkup.Toml.number?_toDigits`). It might also be the beginning of a date or a time,
which are tried first; all that tells them apart is the first character that is no digit
(`CodeMarkup.Toml.dateTime?_eq_none`).
-/

namespace CodeMarkup.Toml

/-! ### Digits -/

theorem moreDigits_append {ds r : Text} (hds : ∀ c ∈ ds, c.isDigit)
    (hr : ∀ c ∈ r.head?, c.isDigit = false ∧ c ≠ '_') :
    moreDigits Char.isDigit (ds ++ r) = (ds, r) := by
  induction ds with
  | nil =>
    cases r with
    | nil => rfl
    | cons c r =>
      obtain ⟨hc, hlow⟩ := hr c rfl
      rw [List.nil_append, moreDigits.eq_def]
      split
      · next h => cases h
      · next h =>
        cases h
        exact absurd rfl hlow
      · next h =>
        cases h
        rw [hc]
        rfl
  | cons d ds ih =>
    have hd := hds d List.mem_cons_self
    have ih := ih fun c hc => hds c (List.mem_cons_of_mem _ hc)
    rw [List.cons_append, moreDigits.eq_def]
    split
    · next h => cases h
    · next h =>
      injection h with hlow _
      subst hlow
      cases hd
    · next h =>
      injection h with hhead htail
      subst hhead htail
      rw [hd, ih]
      rfl

theorem wholeDigits?_toDigits (n : Nat) {r : Text}
    (hr : ∀ c ∈ r.head?, c.isDigit = false ∧ c ≠ '_') :
    wholeDigits? (Nat.toDigits 10 n ++ r) = some (Nat.toDigits 10 n, r) := by
  have hdigits : ∀ c ∈ Nat.toDigits 10 n, c.isDigit := fun c hc =>
    Nat.isDigit_of_mem_toDigits (by decide) (by decide) hc
  rcases Nat.eq_zero_or_pos n with rfl | hn
  · rfl
  · have hhead := head?_toDigits_ne hn
    cases hds : Nat.toDigits 10 n with
    | nil => exact absurd hds Nat.toDigits_ne_nil
    | cons d ds =>
      rw [hds] at hdigits hhead
      have hd := hdigits d List.mem_cons_self
      rw [List.cons_append, wholeDigits?.eq_def]
      split
      · next h =>
        injection h with hzero _
        exact absurd (congrArg some hzero) hhead
      · rw [digits?, hd, moreDigits_append (fun c hc => hdigits c (List.mem_cons_of_mem _ hc)) hr]
        rfl

/-! ### Dates and times -/

/-- What a text of digits is behind them tells whether it is a date or a time. -/
theorem dropWhile_of_twoDigits? {least greatest : Nat} {t ds r : Text}
    (h : twoDigits? least greatest t = some (ds, r)) :
    t.dropWhile Char.isDigit = r.dropWhile Char.isDigit := by
  unfold twoDigits? at h
  split at h
  · dsimp only at h
    split at h
    · next hcond =>
      cases h
      rw [List.dropWhile_cons, if_pos hcond.1, List.dropWhile_cons, if_pos hcond.2.1]
    · cases h
  · cases h

/-- **Digits at the end of a line are no date and no time.** -/
theorem dateTime?_eq_none {t r : Text} (h : t.dropWhile Char.isDigit = '\n' :: r) :
    dateTime? t = none := by
  have hdate : date? t = none := by
    unfold date?
    split
    · next a b c d t =>
      split
      · next hall =>
        simp only [List.all_cons, List.all_nil, Bool.and_true, Bool.and_eq_true] at hall
        simp [hall] at h
      · rfl
    · rfl
  have htime : time? t = none := by
    unfold time?
    split
    · next hour t' htwo =>
      rw [dropWhile_of_twoDigits? htwo] at h
      simp at h
    · rfl
  rw [dateTime?, hdate]
  exact htime

/-! ### Numbers -/

theorem sign_of_isDigit {d : Char} (hd : d.isDigit) (t : Text) :
    sign (d :: t) = (false, d :: t) := by
  rw [sign.eq_def]
  split
  · next h =>
    injection h with hplus _
    subst hplus
    cases hd
  · next h =>
    injection h with hminus _
    subst hminus
    cases hd
  · rfl

/-- A number that fits into an integer is read up to the end of its line. -/
theorem decimal?_toDigits {n : Nat} (hn : n < 0x8000000000000000) (r : Text) :
    decimal? (Nat.toDigits 10 n ++ '\n' :: r) = some (.nat n, '\n' :: r) := by
  have hsign : sign (Nat.toDigits 10 n ++ '\n' :: r) = (false, Nat.toDigits 10 n ++ '\n' :: r) := by
    obtain ⟨d, ds, hds, hd⟩ := exists_cons_toDigits n
    rw [hds, List.cons_append, sign_of_isDigit hd]
  have hwhole : wholeDigits? (Nat.toDigits 10 n ++ '\n' :: r) =
      some (Nat.toDigits 10 n, '\n' :: r) :=
    wholeDigits?_toDigits n (by rintro c ⟨⟩; exact ⟨rfl, by decide⟩)
  have hvalue : signed? false (Nat.ofDigitChars 10 (Nat.toDigits 10 n) 0) = some (.nat n) := by
    rw [Nat.ofDigitChars_toDigits (by decide) (by decide)]
    exact if_pos hn
  have hfraction : fraction? ('\n' :: r) = some ([], '\n' :: r) := rfl
  have hexponent : exponent? ('\n' :: r) = some ((false, 0), '\n' :: r) := rfl
  unfold decimal?
  simp only [hsign, hwhole, hfraction, hexponent, if_true, hvalue]
  rfl

/-- Digits up to the end of a line are read in base 10. -/
theorem number?_toDigits {n : Nat} (hn : n < 0x8000000000000000) (r : Text) :
    number? (Nat.toDigits 10 n ++ '\n' :: r) = some (.nat n, '\n' :: r) := by
  have hdecimal := decimal?_toDigits hn r
  obtain ⟨d, ds, hds, hd⟩ := exists_cons_toDigits n
  have hsecond : ∀ e t, ds ++ '\n' :: r = e :: t → e.isDigit ∨ e = '\n' := by
    intro e t h
    cases ds with
    | nil =>
      cases h
      exact .inr rfl
    | cons d' ds =>
      cases h
      exact .inl (Nat.isDigit_of_mem_toDigits (b := 10) (n := n) (by decide) (by decide)
        (by simp [hds]))
  have hspecial : special? (d :: (ds ++ '\n' :: r)) = none := by
    have hi : 'i' ≠ d := by
      rintro rfl
      cases hd
    have hn : 'n' ≠ d := by
      rintro rfl
      cases hd
    simp [special?, Scanner.word, hi, hn]
  rw [hds, List.cons_append] at hdecimal ⊢
  rw [number?.eq_def]
  -- No letter of another base comes second.
  split
  · next h =>
    injection h with _ h
    rcases hsecond _ _ h with h | h <;> cases h
  · next h =>
    injection h with _ h
    rcases hsecond _ _ h with h | h <;> cases h
  · next h =>
    injection h with _ h
    rcases hsecond _ _ h with h | h <;> cases h
  · rw [sign_of_isDigit hd, hspecial]
    exact hdecimal

end CodeMarkup.Toml
