import CodeMarkup.Proofs.Gaps

/-!
# The first and the last character of a match

A check on expressions that tells, without a look at any text, which characters a match can begin
with (`CodeMarkup.Regex.Expr.begins`) and which it can end with (`CodeMarkup.Regex.Expr.ends`).
Both are recursions on the expression, and what is taken passes them
(`CodeMarkup.Regex.Expr.Takes.begins`, `CodeMarkup.Regex.Expr.Takes.ends`).

What they are for are the two ends of a text. **Characters that begin no match stay in a gap where
the text begins with them** (`CodeMarkup.Regex.Expr.segmentsFrom_append`): there is nothing before
them that a match could begin with. And **characters that end no match stay in a gap where the text
ends with them** (`CodeMarkup.Regex.Cuts.exists_gap_at_end`), since a match that goes into them
has to end in them.
-/

namespace CodeMarkup.Regex

namespace Expr

/-! ### The checks -/

/-- Whether what an expression takes may begin with a character. -/
def begins : Expr → Char → Bool
  | one s, c => s.contains c
  | cat a b, c => a.begins c || (a.nullable && b.begins c)
  | alt a b, c => a.begins c || b.begins c
  | rep _ _ _ a, c => a.begins c
  | group _ a, c => a.begins c
  | _, _ => false

/-- Whether what an expression takes may end with a character. -/
def ends : Expr → Char → Bool
  | one s, c => s.contains c
  | cat a b, c => b.ends c || (b.nullable && a.ends c)
  | alt a b, c => a.ends c || b.ends c
  | rep _ _ _ a, c => a.ends c
  | group _ a, c => a.ends c
  | _, _ => false

variable {e : Expr} {x : Text} {c : Char}

theorem Takes.nullable_of_nil (h : e.Takes []) : e.nullable := by
  by_contra hne
  exact h.ne_nil (by simpa using hne) rfl

/-- **The check of the first character is sound.** -/
theorem Takes.begins (h : e.Takes x) (hc : x.head? = some c) : e.begins c := by
  induction e generalizing x with
  | empty =>
    rw [takes_empty.1 h] at hc
    cases hc
  | look =>
    rw [takes_look.1 h] at hc
    cases hc
  | one s =>
    obtain ⟨d, hd, rfl⟩ := takes_one.1 h
    obtain rfl : d = c := by simpa using hc
    exact hd
  | cat a b iha ihb =>
    obtain ⟨y, z, hy, hz, rfl⟩ := takes_cat.1 h
    cases y with
    | nil => simp [Expr.begins, hy.nullable_of_nil, ihb hz hc]
    | cons d y => simp [Expr.begins, iha hy hc]
  | alt a b iha ihb =>
    rcases takes_alt.1 h with h | h
    · simp [Expr.begins, iha h hc]
    · simp [Expr.begins, ihb h hc]
  | group i a ih => exact ih (takes_group.1 h) hc
  | rep min max greedy a ih =>
    -- The first round that takes something.
    obtain ⟨xs, rfl, hxs, -⟩ := takes_rep h
    rw [List.head?_flatten] at hc
    obtain ⟨y, hy, hc⟩ := List.exists_of_findSome?_eq_some hc
    exact ih (hxs y hy) hc

/-- **The check of the last character is sound.** -/
theorem Takes.ends (h : e.Takes x) (hc : x.getLast? = some c) : e.ends c := by
  induction e generalizing x with
  | empty =>
    rw [takes_empty.1 h] at hc
    cases hc
  | look =>
    rw [takes_look.1 h] at hc
    cases hc
  | one s =>
    obtain ⟨d, hd, rfl⟩ := takes_one.1 h
    obtain rfl : d = c := by simpa using hc
    exact hd
  | cat a b iha ihb =>
    obtain ⟨y, z, hy, hz, rfl⟩ := takes_cat.1 h
    cases z with
    | nil =>
      rw [List.append_nil] at hc
      simp [Expr.ends, hz.nullable_of_nil, iha hy hc]
    | cons d z =>
      rw [List.getLast?_append_of_ne_nil _ (List.cons_ne_nil d z)] at hc
      simp [Expr.ends, ihb hz hc]
  | alt a b iha ihb =>
    rcases takes_alt.1 h with h | h
    · simp [Expr.ends, iha h hc]
    · simp [Expr.ends, ihb h hc]
  | group i a ih => exact ih (takes_group.1 h) hc
  | rep min max greedy a ih =>
    -- The last round that takes something.
    obtain ⟨xs, rfl, hxs, -⟩ := takes_rep h
    rw [List.getLast?_flatten] at hc
    obtain ⟨y, hy, hc⟩ := List.exists_of_findSome?_eq_some hc
    exact ih (hxs y (List.mem_reverse.1 hy)) hc

/-! ### Matches -/

/-- A match does not begin with a character that fails the check. -/
theorem taken_eq_nil_of_begins (hc : e.begins c = false) {prev : Option Char} {t : Text} {r : Run}
    (h : e.toMarked.matchAt? prev (c :: t) = some r) : r.taken = [] := by
  obtain ⟨u, hu⟩ := (Marked.reads_matchAt? h).exists_append
  cases hr : r.taken with
  | nil => rfl
  | cons d x =>
    rw [hr, List.cons_append] at hu
    have hd : r.taken.head? = some c := by rw [hr, (List.cons.inj hu).1, List.head?_cons]
    rw [(extends_of_matchAt? h).takes.begins hd] at hc
    cases hc

/-- **Characters that begin no match** are in a gap where a text begins with them. -/
theorem segmentsFrom_append {s : Text} (hs : ∀ c ∈ s, e.begins c = false) (prev : Option Char)
    (t : Text) :
    e.toMarked.segmentsFrom prev (s ++ t) =
      s.foldr Segment.consGap (e.toMarked.segmentsFrom (s.getLast?.or prev) t) := by
  induction s generalizing prev with
  | nil => rfl
  | cons c s ih =>
    obtain ⟨hc, hs⟩ := List.forall_mem_cons.1 hs
    rw [List.cons_append, Marked.segmentsFrom_cons fun r => taken_eq_nil_of_begins hc, ih hs,
      getLast?_cons_or, List.foldr_cons]

end Expr

/-! ### The end of a text -/

/-- **Characters that end no match** are in a gap where a text ends with them. -/
theorem Cuts.exists_gap_at_end {e : Expr} {prev : Option Char} {ss : List Segment}
    (h : Cuts e.toMarked prev ss) {u s : Text} (hcov : Segment.covered ss = u ++ s) (hs : s ≠ [])
    (hends : ∀ c ∈ s, e.ends c = false) : ∃ pre v, ss = pre ++ [.gap (v ++ s)] := by
  -- A match that goes into `s` does not end there.
  have hhit : ∀ {r : Run} {v : Text}, .hit r ∈ ss → v ≠ [] → v.getLast? = r.taken.getLast? →
      ¬∀ c ∈ v, c ∈ s := by
    intro r v hr hv hlast hsub
    obtain ⟨-, prev', t, hf⟩ := h.exists_matchAt?_of_mem hr
    have hc := List.getLast?_eq_some_getLast hv
    have hend := hends _ (hsub _ (List.getLast_mem hv))
    rw [hlast] at hc
    simpa [hend] using (Expr.extends_of_matchAt? hf).takes.ends hc
  rcases List.eq_nil_or_concat ss with rfl | ⟨pre, last, rfl⟩
  · exact absurd (List.append_eq_nil_iff.1 hcov.symm).2 hs
  rw [List.concat_eq_append] at h hcov hhit ⊢
  rw [Segment.covered_append, Segment.covered_cons, Segment.covered_nil, List.append_nil] at hcov
  cases last with
  | hit r =>
    have hlast : s.getLast? = r.taken.getLast? := by
      have hr := (h.exists_matchAt?_of_mem (r := r) (by simp)).1
      rw [← List.getLast?_append_of_ne_nil u hs, ← hcov]
      exact List.getLast?_append_of_ne_nil _ hr
    exact absurd (fun c hc => hc) (hhit (by simp) hs hlast)
  | gap g =>
    rcases List.append_eq_append_iff.1 hcov with ⟨v, -, hg⟩ | ⟨v, hpre, hsv⟩
    · exact ⟨pre, v, by rw [← hg, Segment.text]⟩
    · -- What of `s` stands before the gap would be the end of a match.
      rcases eq_or_ne v [] with rfl | hv
      · exact ⟨pre, [], by rw [hsv]; rfl⟩
      rcases h.before_gap with rfl | ⟨pre', _, r, rfl, hr, -⟩
      · exact absurd (List.append_eq_nil_iff.1 hpre.symm).2 hv
      · have hlast : v.getLast? = r.taken.getLast? := by
          rw [← List.getLast?_append_of_ne_nil u hv, ← hpre, Segment.covered_append,
            Segment.covered_cons, Segment.covered_nil, List.append_nil]
          exact List.getLast?_append_of_ne_nil _ hr
        refine absurd (fun c hc => ?_) (hhit (by simp) hv hlast)
        rw [hsv]
        exact List.mem_append_left _ hc

end CodeMarkup.Regex
