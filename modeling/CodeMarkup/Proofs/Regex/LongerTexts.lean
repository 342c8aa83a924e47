import CodeMarkup.Proofs.Regex.Complete

/-!
# Matches in a longer text

An expression without assertions looks at no characters but those that it takes. So what more
characters at the end of a text can change is this only: **the best match at a place stays the
same, or it becomes one that goes beyond the end of the shorter text**
(`CodeMarkup.Regex.Marked.matchAt?_append`). In particular, where a match takes something in a
text a match takes something in any longer one, although it may be another match
(`CodeMarkup.Regex.Marked.exists_matchAt?_append`).

Preference is no obstacle to this, and neither are stations or rounds that take nothing, since
the two searches are compared attempt by attempt (`CodeMarkup.Regex.Attempt.SameOrBeyond`): they
try the same ways in the same order and pass the same stations in vain, up to the first way that
only the longer text has room for, and there this one is the answer. The marks of the two
searches are related in the same manner (`CodeMarkup.Regex.Marked.Alike`), place by place from the
end of the shorter text to its start.
-/

namespace CodeMarkup.Regex

/-! ### Expressions without assertions -/

/-- Whether there is no assertion in a marked expression. -/
def Marked.isBlind : Marked → Bool
  | look _ => false
  | cat a b => a.isBlind && b.isBlind
  | alt a b => a.isBlind && b.isBlind
  | group _ a => a.isBlind
  | enter _ a => a.isBlind
  | join _ a => a.isBlind
  | plus _ a => a.isBlind
  | _ => true

namespace Expr

theorem isBlind_cat {a b : Expr} : (cat a b).IsBlind ↔ a.IsBlind ∧ b.IsBlind := by
  simp [IsBlind, allows, forall_and]

theorem isBlind_alt {a b : Expr} : (alt a b).IsBlind ↔ a.IsBlind ∧ b.IsBlind := by
  simp [IsBlind, allows, forall_and]

section Copies

variable {a b last : Marked} {as : List Marked} {greedy : Bool}

theorem isBlind_choice (ha : a.isBlind) (hb : b.isBlind) : (choice greedy a b).isBlind := by
  cases greedy
  · exact Bool.and_eq_true_iff.2 ⟨hb, ha⟩
  · exact Bool.and_eq_true_iff.2 ⟨ha, hb⟩

theorem isBlind_chain (h : ∀ a ∈ as, a.isBlind) (hlast : last.isBlind) :
    (chain as last).isBlind := by
  induction as with
  | nil => exact hlast
  | cons a as ih =>
    obtain ⟨ha, has⟩ := List.forall_mem_cons.1 h
    exact Bool.and_eq_true_iff.2 ⟨ha, ih has⟩

theorem isBlind_nested (h : ∀ a ∈ as, a.isBlind) : (nested greedy as).isBlind := by
  induction as with
  | nil => rfl
  | cons a as ih =>
    obtain ⟨ha, has⟩ := List.forall_mem_cons.1 h
    exact isBlind_choice (Bool.and_eq_true_iff.2 ⟨ha, ih has⟩) rfl

theorem LoopBody.isBlind (h : LoopBody (·.isBlind) greedy b) : b.isBlind := by
  cases h with
  | plain h => exact h
  | stations l k h => exact h

theorem Rounds.isBlind {min : Nat} {max : Option Nat}
    (h : Rounds (·.isBlind) greedy min max b) : b.isBlind := by
  cases h with
  | any hb => exact isBlind_choice hb.isBlind rfl
  | anyJoined l hb => exact isBlind_choice hb.isBlind rfl
  | atLeast has hb => exact isBlind_chain has.1 hb.isBlind
  | exactly has => exact isBlind_chain has.1 rfl
  | upTo has hbs => exact isBlind_chain has.1 (isBlind_nested hbs.1)
  | upToJoined l has hbs => exact isBlind_chain has.1 (isBlind_nested hbs.1)

end Copies

theorem gives_isBlind {e : Expr} (he : e.IsBlind) (loop : Bool) :
    Gives (·.isBlind) (e.mark loop) := by
  induction e generalizing loop with
  | empty | one => exact .pure rfl
  | look a => exact absurd (he a) (by simp [allows])
  | cat a b iha ihb =>
    obtain ⟨ha, hb⟩ := isBlind_cat.1 he
    refine (iha ha loop).bind fun a' ha' => (ihb hb loop).bind fun b' hb' => .pure ?_
    exact Bool.and_eq_true_iff.2 ⟨ha', hb'⟩
  | alt a b iha ihb =>
    obtain ⟨ha, hb⟩ := isBlind_alt.1 he
    refine (iha ha loop).bind fun a' ha' => (ihb hb loop).bind fun b' hb' => ?_
    have h : (Marked.alt a' b').isBlind := Bool.and_eq_true_iff.2 ⟨ha', hb'⟩
    dsimp only
    split
    · exact .fresh fun l => .pure h
    · exact .pure h
  | group i a ih =>
    have ha : a.IsBlind := fun l => by simpa [allows] using he l
    exact (ih ha loop).bind fun a' ha' => .pure ha'
  | rep min max greedy a ih =>
    exact (gives_rep (ih he) min max greedy loop).mono fun _ h => h.isBlind

/-- **No assertion is added** to an expression when it is marked. -/
theorem isBlind_toMarked {e : Expr} (he : e.IsBlind) : e.toMarked.isBlind :=
  gives_isBlind he false 0

end Expr

/-! ### The same, or beyond the end -/

/-- That what is found is the same, or a run of more than `n` characters instead. -/
def SameOrBeyond (n : Nat) (x x' : Option Run) : Prop :=
  x' = x ∨ ∃ r, x' = some r ∧ n < r.taken.length

/-- That an outcome is the same, or a run of more than `n` characters arrives instead. -/
def Outcome.SameOrBeyond (n : Nat) (o o' : Outcome) : Prop :=
  o' = o ∨ ∃ r, o' = .found r ∧ n < r.taken.length

theorem Outcome.SameOrBeyond.run? {n : Nat} {o o' : Outcome} (h : o.SameOrBeyond n o') :
    Regex.SameOrBeyond n o.run? o'.run? := by
  rcases h with rfl | ⟨r, rfl, hr⟩
  · exact .inl rfl
  · exact .inr ⟨r, rfl, hr⟩

namespace Attempt

/-- That the outcome of an attempt is the same, or a run of more than `n` characters arrives
instead, whatever stations have been passed. -/
def SameOrBeyond (n : Nat) (a a' : Attempt) : Prop :=
  ∀ passed, (a passed).SameOrBeyond n (a' passed)

namespace SameOrBeyond

variable {n : Nat} {a a' b b' : Attempt}

theorem refl (a : Attempt) : a.SameOrBeyond n a := fun _ => .inl rfl

theorem station (h : a.SameOrBeyond n a') (l : Nat) :
    (station l a).SameOrBeyond n (station l a') := by
  intro passed
  unfold Attempt.station
  split
  · exact .inl rfl
  · exact h _

theorem or (ha : a.SameOrBeyond n a') (hb : b.SameOrBeyond n b') :
    (a.or b).SameOrBeyond n (a'.or b') := by
  intro passed
  unfold Attempt.or
  rcases ha passed with h | ⟨r, h, hr⟩
  · rw [h]
    cases a passed with
    | found r => exact .inl rfl
    | failed passed' => exact hb passed'
  · rw [h]
    exact .inr ⟨r, rfl, hr⟩

theorem map {f : Run → Run} (hf : ∀ r, (f r).taken = r.taken) (h : a.SameOrBeyond n a') :
    (a.map f).SameOrBeyond n (a'.map f) := by
  intro passed
  unfold Attempt.map
  rcases h passed with h | ⟨r, h, hr⟩
  · exact .inl (congrArg _ h)
  · rw [h]
    exact .inr ⟨f r, rfl, by rwa [hf]⟩

end SameOrBeyond

end Attempt

namespace Marked

/-! ### The marks of two searches -/

/-- That two expressions differ in their marks only, and that the marks are related by `R`. There
is no case for assertions, so the expressions have none. -/
inductive Alike (R : Option Run → Option Run → Prop) : Marked → Marked → Prop where
  /-- Nothing is taken. -/
  | empty : Alike R .empty .empty
  /-- The same set, with marks that are related. -/
  | one (s : CharSet) {mark mark' : Option Run} (h : R mark mark') :
      Alike R (.one s mark) (.one s mark')
  /-- One after the other. -/
  | cat {a a' b b' : Marked} (ha : Alike R a a') (hb : Alike R b b') :
      Alike R (.cat a b) (.cat a' b')
  /-- The first, or else the second. -/
  | alt {a a' b b' : Marked} (ha : Alike R a a') (hb : Alike R b b') :
      Alike R (.alt a b) (.alt a' b')
  /-- The same group. -/
  | group (i : Nat) {a a' : Marked} (ha : Alike R a a') : Alike R (.group i a) (.group i a')
  /-- The same station before. -/
  | enter (l : Nat) {a a' : Marked} (ha : Alike R a a') : Alike R (.enter l a) (.enter l a')
  /-- The same station behind. -/
  | join (l : Nat) {a a' : Marked} (ha : Alike R a a') : Alike R (.join l a) (.join l a')
  /-- One or more times. -/
  | plus (greedy : Bool) {a a' : Marked} (ha : Alike R a a') :
      Alike R (.plus greedy a) (.plus greedy a')

/-- That two expressions without assertions differ in their marks only, whatever these are. -/
abbrev SameShape : Marked → Marked → Prop := Alike fun _ _ => True

theorem sameShape_refl {m : Marked} (h : m.isBlind) : SameShape m m := by
  induction m with
  | empty => exact .empty
  | look a => cases h
  | one s mark => exact .one s trivial
  | cat a b iha ihb =>
    obtain ⟨ha, hb⟩ := Bool.and_eq_true_iff.1 h
    exact .cat (iha ha) (ihb hb)
  | alt a b iha ihb =>
    obtain ⟨ha, hb⟩ := Bool.and_eq_true_iff.1 h
    exact .alt (iha ha) (ihb hb)
  | group i a ih => exact .group i (ih h)
  | enter l a ih => exact .enter l (ih h)
  | join l a ih => exact .join l (ih h)
  | plus greedy a ih => exact .plus greedy (ih h)

theorem SameShape.remark {m m' : Marked} (h : SameShape m m') (p : Place) (rest : Attempt) :
    SameShape m (m'.remark p rest) := by
  induction h generalizing rest with
  | empty => exact .empty
  | one s => exact .one s trivial
  | cat _ _ iha ihb => exact .cat (iha _) (ihb _)
  | alt _ _ iha ihb => exact .alt (iha _) (ihb _)
  | group i _ ih => exact .group i (ih _)
  | enter l _ ih => exact .enter l (ih _)
  | join l _ ih => exact .join l (ih _)
  | plus greedy _ ih => exact .plus greedy (ih _)

theorem SameShape.sweep {m : Marked} (h : m.isBlind) (prev : Option Char) (t : Text) :
    SameShape m (m.sweep prev t).2 := by
  induction t generalizing prev with
  | nil => exact (sameShape_refl h).remark _ _
  | cons c t ih => exact (ih (some c)).remark _ _

theorem sameOrBeyond_again {n : Nat} (greedy : Bool) {round round' rest rest' : Attempt}
    (hround : round.SameOrBeyond n round') (hrest : rest.SameOrBeyond n rest') :
    (again greedy round rest).SameOrBeyond n (again greedy round' rest') := by
  unfold again
  split
  · exact hround.or hrest
  · exact hrest.or hround

section Places

variable {R : Option Run → Option Run → Prop} {n : Nat} {p p' : Place} {m m' : Marked}
  {rest rest' : Attempt}

/-- That taking a character at two places finds the same, or more than `n` characters at the
second one, where the marks are related by `R`. -/
def TakesAlike (R : Option Run → Option Run → Prop) (n : Nat) (p p' : Place) : Prop :=
  ∀ s mark mark', R mark mark' → ∀ rest rest',
    ((one s mark).best p rest).SameOrBeyond n ((one s mark').best p' rest')

/-- Before the same character, marks of which one may go further than `n` characters. -/
theorem takesAlike_next (n : Nat) (prev prev' : Option Char) (c : Char) :
    TakesAlike (SameOrBeyond n) (n + 1) ⟨prev, some c⟩ ⟨prev', some c⟩ := by
  rintro s mark mark' (rfl | ⟨r, rfl, hr⟩) rest rest'
  · exact .refl _
  · intro passed
    by_cases hc : s.contains c
    · exact .inr ⟨r.push c, by simp [best, hc], by simpa using hr⟩
    · exact .inl (by cases mark <;> simp [best, hc])

/-- At the end of a text nothing is taken, and any character that follows goes beyond it. -/
theorem takesAlike_end (prev : Option Char) (p' : Place) :
    TakesAlike (fun _ _ => True) 0 ⟨prev, none⟩ p' := by
  intro s mark mark' _ rest rest' passed
  obtain ⟨prev', next⟩ := p'
  rcases next with _ | c <;> rcases mark' with _ | r
  · exact .inl rfl
  · exact .inl rfl
  · exact .inl rfl
  · by_cases hc : s.contains c
    · exact .inr ⟨r.push c, by simp [best, hc], by simp⟩
    · exact .inl (by simp [best, hc])

/-- **Trying the ways at two places**: the same is found, or something that goes further. -/
theorem sameOrBeyond_best (h : Alike R m m') (hp : TakesAlike R n p p')
    (hrest : rest.SameOrBeyond n rest') : (m.best p rest).SameOrBeyond n (m'.best p' rest') := by
  induction h generalizing rest rest' with
  | empty => exact hrest
  | one s hmark => exact hp s _ _ hmark rest rest'
  | cat _ _ iha ihb => exact iha (ihb hrest)
  | alt _ _ iha ihb => exact (iha hrest).or (ihb hrest)
  | group i _ ih => exact (ih (hrest.map (Run.taken_openGroup i))).map (Run.taken_closeGroup i)
  | enter l _ ih => exact (ih hrest).station l
  | join l _ ih => exact ih (hrest.station l)
  | plus greedy _ ih => exact ih (sameOrBeyond_again greedy (ih (.refl _)) hrest)

/-- **Marking two places** relates the marks in the same manner. -/
theorem alike_remark (h : Alike R m m') (hp : TakesAlike R n p p')
    (hrest : rest.SameOrBeyond n rest') :
    Alike (SameOrBeyond n) (m.remark p rest) (m'.remark p' rest') := by
  induction h generalizing rest rest' with
  | empty => exact .empty
  | one s => exact .one s (hrest []).run?
  | cat _ hb iha ihb => exact .cat (iha (sameOrBeyond_best hb hp hrest)) (ihb hrest)
  | alt _ _ iha ihb => exact .alt (iha hrest) (ihb hrest)
  | group i _ ih => exact .group i (ih (hrest.map (Run.taken_openGroup i)))
  | enter l _ ih => exact .enter l (ih hrest)
  | join l _ ih => exact .join l (ih (hrest.station l))
  | plus greedy ha ih =>
    exact .plus greedy
      (ih (sameOrBeyond_again greedy (sameOrBeyond_best ha hp (.refl _)) hrest))

end Places

/-! ### Passing over two texts -/

/-- **The marks for the starts of a text and of a longer one.** -/
theorem alike_sweep {m : Marked} (h : m.isBlind) (prev prev' : Option Char) (u v : Text) :
    Alike (SameOrBeyond u.length) (m.sweep prev u).2 (m.sweep prev' (u ++ v)).2 := by
  induction u generalizing prev prev' with
  | nil =>
    have hend : ∀ m' p', SameShape m m' →
        Alike (SameOrBeyond 0) (m.sweep prev []).2 (m'.remark p' .arrive) := fun m' p' hm =>
      alike_remark hm (takesAlike_end prev p') (.refl _)
    cases v with
    | nil => exact hend m _ (sameShape_refl h)
    | cons c v => exact hend _ _ (.sweep h (some c) v)
  | cons c u ih =>
    exact alike_remark (ih (some c) (some c)) (takesAlike_next u.length prev prev' c) (.refl _)

/-- **More characters behind a text** leave the best match at its start as it is, or the best match
goes beyond the text. The characters before the text do not matter. -/
theorem matchAt?_append {m : Marked} (h : m.isBlind) (prev prev' : Option Char) {u : Text}
    (hu : u ≠ []) (v : Text) :
    SameOrBeyond u.length (m.matchAt? prev u) (m.matchAt? prev' (u ++ v)) := by
  obtain ⟨c, u, rfl⟩ := List.exists_cons_of_ne_nil hu
  exact (sameOrBeyond_best (alike_sweep h (some c) (some c) u v)
    (takesAlike_next u.length prev prev' c) (.refl _) []).run?

/-- **Where a match takes something, one does in any longer text.** -/
theorem exists_matchAt?_append {m : Marked} (h : m.isBlind) {prev : Option Char} {u : Text}
    {r : Run} (hfound : m.matchAt? prev u = some r) (hr : r.taken ≠ []) (prev' : Option Char)
    (v : Text) : ∃ r', m.matchAt? prev' (u ++ v) = some r' ∧ r'.taken ≠ [] := by
  have hu : u ≠ [] := by
    rintro rfl
    cases hfound
  rcases matchAt?_append h prev prev' hu v with hsame | ⟨r', hr', hlt⟩
  · exact ⟨r, hsame.trans hfound, hr⟩
  · exact ⟨r', hr', List.ne_nil_of_length_pos (by omega)⟩

end Marked

end CodeMarkup.Regex
