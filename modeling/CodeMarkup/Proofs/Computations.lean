import Mathlib.Data.List.Basic

/-!
# Computations with errors

When a computation that may fail succeeds, and where it fails if it does not. A
configuration is built by computations on lists, one member after the other: a fold of
steps succeeds step by step (`CodeMarkup.foldlM_cons_eq_ok_iff`), keeps what each step keeps
(`CodeMarkup.foldlM_invariant`), and fails where a step fails behind steps that succeed
(`CodeMarkup.foldlM_eq_error_iff`).
-/

namespace CodeMarkup

variable {ε α β σ : Type}

theorem map_eq_ok_iff {f : α → β} {x : Except ε α} {b : β} :
    x.map f = .ok b ↔ ∃ a, x = .ok a ∧ f a = b := by
  cases x <;> simp [Except.map]

theorem bind_eq_ok_iff {x : Except ε α} {f : α → Except ε β} {b : β} :
    x.bind f = .ok b ↔ ∃ a, x = .ok a ∧ f a = .ok b := by
  cases x <;> simp [Except.bind]

/-! ### Folds -/

section Fold

variable {step : σ → α → Except ε σ} {a : α} {as bs : List α} {s s' : σ}

/-- A fold succeeds if its first step and the fold of the others do. -/
theorem foldlM_cons_eq_ok_iff :
    (a :: as).foldlM step s = .ok s' ↔
      ∃ s₁, step s a = .ok s₁ ∧ as.foldlM step s₁ = .ok s' := by
  rw [List.foldlM_cons]
  exact bind_eq_ok_iff

/-- A fold over a list in two parts succeeds if it does over one after the other. -/
theorem foldlM_append_eq_ok_iff :
    (as ++ bs).foldlM step s = .ok s' ↔
      ∃ s₁, as.foldlM step s = .ok s₁ ∧ bs.foldlM step s₁ = .ok s' := by
  rw [List.foldlM_append]
  exact bind_eq_ok_iff

/-- What a step that may fail preserves, a fold of such steps preserves. -/
theorem foldlM_invariant {Inv : σ → Prop}
    (hstep : ∀ s a s', Inv s → step s a = .ok s' → Inv s') (h : Inv s)
    (hfold : as.foldlM step s = .ok s') : Inv s' := by
  induction as generalizing s with
  | nil =>
    cases hfold
    exact h
  | cons a as ih =>
    obtain ⟨s₁, ha, hrest⟩ := foldlM_cons_eq_ok_iff.1 hfold
    exact ih (hstep s a s₁ h ha) hrest

/-- **A fold fails where a step fails behind steps that succeed.** -/
theorem foldlM_eq_error_iff {e : ε} :
    as.foldlM step s = .error e ↔
      ∃ before a after s₁, as = before ++ a :: after ∧ before.foldlM step s = .ok s₁ ∧
        step s₁ a = .error e := by
  constructor
  · intro h
    induction as generalizing s with
    | nil => cases h
    | cons a as ih =>
      rw [List.foldlM_cons] at h
      cases ha : step s a with
      | error e' =>
        obtain rfl : e' = e := by simpa [ha, bind, Except.bind] using h
        exact ⟨[], a, as, s, rfl, rfl, ha⟩
      | ok s₁ =>
        simp only [ha, bind, Except.bind] at h
        obtain ⟨before, a', after, s₂, rfl, hbefore, ha'⟩ := ih h
        exact ⟨a :: before, a', after, s₂, rfl, foldlM_cons_eq_ok_iff.2 ⟨s₁, ha, hbefore⟩, ha'⟩
  · rintro ⟨before, a, after, s₁, rfl, hbefore, ha⟩
    simp [List.foldlM_append, hbefore, ha, bind, Except.bind]

end Fold

/-! ### Lists of results -/

section Results

variable {f : α → Except ε β} {a : α} {as : List α} {bs : List β}

/-- A computation succeeds on a list if it does on the first member and on the others. -/
theorem mapM_cons_eq_ok_iff :
    (a :: as).mapM f = .ok bs ↔ ∃ b bs', f a = .ok b ∧ as.mapM f = .ok bs' ∧ b :: bs' = bs := by
  rw [List.mapM_cons]
  cases f a <;> cases as.mapM f <;> simp [bind, Except.bind, pure, Except.pure]

/-- What comes of a list comes of its members. -/
theorem exists_mem_of_mapM (h : as.mapM f = .ok bs) {b : β} (hb : b ∈ bs) :
    ∃ a ∈ as, f a = .ok b := by
  induction as generalizing bs with
  | nil =>
    cases h
    cases hb
  | cons a as ih =>
    obtain ⟨b', bs', ha, has, rfl⟩ := mapM_cons_eq_ok_iff.1 h
    rcases List.mem_cons.1 hb with rfl | hb
    · exact ⟨a, by simp, ha⟩
    · obtain ⟨a', ha', hfa⟩ := ih has hb
      exact ⟨a', by simp [ha'], hfa⟩

/-- A computation succeeds on a list if and only if it does on each member. -/
theorem exists_mapM_eq_ok_iff : (∃ bs, as.mapM f = .ok bs) ↔ ∀ a ∈ as, ∃ b, f a = .ok b := by
  induction as with
  | nil => exact iff_of_true ⟨[], rfl⟩ fun _ h => absurd h List.not_mem_nil
  | cons a as ih =>
    rw [List.forall_mem_cons, ← ih]
    constructor
    · rintro ⟨bs, h⟩
      obtain ⟨b, bs', ha, has, -⟩ := mapM_cons_eq_ok_iff.1 h
      exact ⟨⟨b, ha⟩, bs', has⟩
    · rintro ⟨⟨b, ha⟩, bs', has⟩
      exact ⟨b :: bs', mapM_cons_eq_ok_iff.2 ⟨b, bs', ha, has, rfl⟩⟩

end Results

end CodeMarkup
