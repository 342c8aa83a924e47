import CodeMarkup.Proofs.Markup.Entities
import CodeMarkup.Proofs.Regex.Shapes

/-!
# Where matches begin and end

A check on expressions that tells, without a look at any text, that their matches in
escaped texts begin and end outside of entities.

Nothing that an expression takes begins inside of an entity if it is
`CodeMarkup.Regex.Expr.foreign`: on each way there is a character that is in no entity,
with no semicolon before it. And nothing that it takes ends there if it
`CodeMarkup.Regex.Expr.settles`: each set that has the ampersand in it is followed by a
set without letters of entities. Both are recursions on the expression, so for a given
expression they are decided by computing.
-/

namespace CodeMarkup.Regex.Expr

open Markup

/-- Whether each text that is taken has a character that is in no entity, and no semicolon
before it. -/
def foreign : Expr → Bool
  | one s => (';' :: entityLetters).all fun c => !s.contains c
  | cat a b => a.foreign || (!a.allows (.take ';') && b.foreign)
  | alt a b => a.foreign && b.foreign
  | rep min _ _ a => min != 0 && a.foreign
  | group _ a => a.foreign
  | _ => false

/-- Whether each text that is taken has a character that is no letter of an entity. -/
def hasSign : Expr → Bool
  | one s => entityLetters.all fun c => !s.contains c
  | cat a b => a.hasSign || b.hasSign
  | alt a b => a.hasSign && b.hasSign
  | rep min _ _ a => min != 0 && a.hasSign
  | group _ a => a.hasSign
  | _ => false

/-- Whether each ampersand that is taken is followed by a character that is no letter of an
entity. -/
def settles : Expr → Bool
  | one s => !s.contains '&'
  | cat a b => b.settles && (a.settles || b.hasSign)
  | alt a b => a.settles && b.settles
  | rep _ _ _ a => a.settles
  | group _ a => a.settles
  | _ => true

variable {e : Expr} {x : Text}

/-- The first round of a repetition that asks for one. -/
theorem Takes.first_round {min : Nat} {max : Option Nat} {greedy : Bool}
    (h : (rep min max greedy e).Takes x) (hmin : (min != 0) = true) :
    ∃ y z, e.Takes y ∧ x = y ++ z := by
  obtain ⟨xs, rfl, hxs, hlen⟩ := takes_rep h
  cases xs with
  | nil =>
    obtain rfl : min = 0 := by simpa using hlen
    cases hmin
  | cons y xs => exact ⟨y, xs.flatten, hxs y (by simp), rfl⟩

theorem Takes.exists_sign (h : e.Takes x) (he : e.hasSign) : ∃ c ∈ x, c ∉ entityLetters := by
  induction e generalizing x with
  | empty | look => cases he
  | one s =>
    obtain ⟨c, hc, rfl⟩ := takes_one.1 h
    refine ⟨c, by simp, fun hmem => ?_⟩
    simpa [hc] using List.all_eq_true.1 he c hmem
  | cat a b iha ihb =>
    obtain ⟨y, z, hy, hz, rfl⟩ := takes_cat.1 h
    rcases Bool.or_eq_true_iff.1 he with ha | hb
    · obtain ⟨c, hc, hne⟩ := iha hy ha
      exact ⟨c, by simp [hc], hne⟩
    · obtain ⟨c, hc, hne⟩ := ihb hz hb
      exact ⟨c, by simp [hc], hne⟩
  | alt a b iha ihb =>
    obtain ⟨ha, hb⟩ := Bool.and_eq_true_iff.1 he
    rcases takes_alt.1 h with h | h
    · exact iha h ha
    · exact ihb h hb
  | group i a ih => exact ih (takes_group.1 h) he
  | rep min max greedy a ih =>
    obtain ⟨hmin, ha⟩ := Bool.and_eq_true_iff.1 he
    obtain ⟨y, z, hy, rfl⟩ := h.first_round hmin
    obtain ⟨c, hc, hne⟩ := ih hy ha
    exact ⟨c, by simp [hc], hne⟩

/-- **The check of the start is sound.** -/
theorem Takes.foreign (h : e.Takes x) (he : e.foreign) : Foreign x := by
  induction e generalizing x with
  | empty | look => cases he
  | one s =>
    obtain ⟨c, hc, rfl⟩ := takes_one.1 h
    refine ⟨[], c, [], rfl, by simp, fun hmem => ?_⟩
    simpa [hc] using List.all_eq_true.1 he c hmem
  | cat a b iha ihb =>
    obtain ⟨y, z, hy, hz, rfl⟩ := takes_cat.1 h
    rcases Bool.or_eq_true_iff.1 he with ha | hb
    · exact (iha hy ha).append_right z
    · obtain ⟨hsemi, hb⟩ := Bool.and_eq_true_iff.1 hb
      exact (ihb hz hb).append_left (hy.not_mem (by simpa using hsemi))
  | alt a b iha ihb =>
    obtain ⟨ha, hb⟩ := Bool.and_eq_true_iff.1 he
    rcases takes_alt.1 h with h | h
    · exact iha h ha
    · exact ihb h hb
  | group i a ih => exact ih (takes_group.1 h) he
  | rep min max greedy a ih =>
    obtain ⟨hmin, ha⟩ := Bool.and_eq_true_iff.1 he
    obtain ⟨y, z, hy, rfl⟩ := h.first_round hmin
    exact (ih hy ha).append_right z

/-- **The check of the end is sound.** -/
theorem Takes.settled (h : e.Takes x) (he : e.settles) : Settled x := by
  induction e generalizing x with
  | empty =>
    obtain rfl := takes_empty.1 h
    exact settled_of_not_mem (by simp)
  | look a =>
    obtain rfl := takes_look.1 h
    exact settled_of_not_mem (by simp)
  | one s =>
    refine settled_of_not_mem (h.not_mem ?_)
    simpa [settles, allows] using he
  | cat a b iha ihb =>
    obtain ⟨y, z, hy, hz, rfl⟩ := takes_cat.1 h
    obtain ⟨hb, hab⟩ := Bool.and_eq_true_iff.1 he
    rcases Bool.or_eq_true_iff.1 hab with ha | hsign
    · exact (iha hy ha).append (ihb hz hb)
    · obtain ⟨c, hc, hne⟩ := hz.exists_sign hsign
      exact (ihb hz hb).append_of_mem hc hne
  | alt a b iha ihb =>
    obtain ⟨ha, hb⟩ := Bool.and_eq_true_iff.1 he
    rcases takes_alt.1 h with h | h
    · exact iha h ha
    · exact ihb h hb
  | group i a ih => exact ih (takes_group.1 h) he
  | rep min max greedy a ih =>
    obtain ⟨xs, rfl, hxs, -⟩ := takes_rep h
    clear h
    induction xs with
    | nil => exact settled_of_not_mem (by simp)
    | cons y xs ihxs =>
      exact (ih (hxs y (by simp)) he).append (ihxs fun z hz => hxs z (by simp [hz]))

end CodeMarkup.Regex.Expr
