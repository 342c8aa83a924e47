import CodeMarkup.Proofs.Regex.Complete

/-!
# Matches between words

A check on expressions that tells, without a look at any text, that no word goes over the start or
over the end of a match: of the characters on both sides of the place
one is no word character, or there is none (`CodeMarkup.Regex.IsEdge`).

An expression opens at an edge if on each way the first thing is the assertion of a boundary, or a
character of a set without word characters (`CodeMarkup.Regex.Expr.opensAtEdge`), and
it closes at an edge if this is the last thing on each way
(`CodeMarkup.Regex.Expr.closesAtEdge`). Both are recursions on the expression, so for a given
expression they are decided by computing.
-/

namespace CodeMarkup.Regex

open Computability

/-- That no word goes over the place between two characters. -/
def IsEdge (prev next : Option Char) : Prop :=
  ¬(isWordBeside false prev ∧ isWordBeside false next)

theorem isEdge_of_holds {prev next : Option Char}
    (h : (Look.boundary false).holds ⟨prev, next⟩) : IsEdge prev next := by
  rintro ⟨hp, hn⟩
  simp [Look.holds, hp, hn] at h

/-- A letter is a word character. -/
theorem isWord_of_letter {c : Char} (h : ('A' ≤ c ∧ c ≤ 'Z') ∨ ('a' ≤ c ∧ c ≤ 'z')) : isWord c := by
  have halpha : c.isAlpha := by
    refine Bool.or_eq_true_iff.2 (h.imp (fun h => ?_) fun h => ?_)
    · exact decide_eq_true h
    · exact Bool.and_eq_true_iff.2 ⟨decide_eq_true h.1, decide_eq_true h.2⟩
  have hascii : c.toNat < 128 := by
    have hZ : 'Z'.val.toNat = 90 := rfl
    have hz : 'z'.val.toNat = 122 := rfl
    have hc : c.toNat = c.val.toNat := rfl
    simp only [Char.le_def, UInt32.le_iff_toNat_le] at h
    omega
  simp [isWord, hascii, isAsciiWord, Char.isAlphanum, halpha]

/-- Whether a set is made of single characters that are no word characters. -/
def CharSet.hasSignsOnly : CharSet → Bool
  | empty => true
  | range lo hi => lo = hi && !isWord lo
  | union a b => a.hasSignsOnly && b.hasSignsOnly
  | _ => false

theorem CharSet.hasSignsOnly.isWord_eq_false {s : CharSet} (h : s.hasSignsOnly) {c : Char}
    (hc : s.contains c) : isWord c = false := by
  induction s with
  | empty => cases hc
  | range lo hi =>
    obtain ⟨heq, hlo⟩ : lo = hi ∧ isWord lo = false := by simpa [hasSignsOnly] using h
    subst heq
    rwa [contains_single.1 hc]
  | union a b iha ihb =>
    obtain ⟨ha, hb⟩ := Bool.and_eq_true_iff.1 h
    rcases Bool.or_eq_true_iff.1 hc with hc | hc
    · exact iha ha hc
    · exact ihb hb hc
  | _ => cases h

namespace Expr

/-- Whether each way begins with a boundary or with a character that is no word character. -/
def opensAtEdge : Expr → Bool
  | empty => false
  | one s => s.hasSignsOnly
  | look a => a = .boundary false
  | cat a _ => a.opensAtEdge
  | alt a b => a.opensAtEdge && b.opensAtEdge
  | rep min _ _ a => min != 0 && a.opensAtEdge
  | group _ a => a.opensAtEdge

/-- Whether each way ends with a boundary or with a character that is no word character. -/
def closesAtEdge : Expr → Bool
  | empty => false
  | one s => s.hasSignsOnly
  | look a => a = .boundary false
  | cat _ b => b.closesAtEdge
  | alt a b => a.closesAtEdge && b.closesAtEdge
  | rep min _ _ a => min != 0 && a.closesAtEdge
  | group _ a => a.closesAtEdge

variable {e : Expr} {w : Way} {prev : Option Char} {t : Text}

/-- A way through a group is a way between its start and its end. -/
theorem mem_ways_group {i : Nat} (hw : w ∈ (group i e).ways) :
    ∃ u ∈ e.ways, w = .opens i :: (u ++ [.closes i]) ∧ w.chars = Way.chars u := by
  obtain ⟨_, rfl, _, ⟨u, hu, _, rfl, rfl⟩, rfl⟩ := hw
  exact ⟨u, hu, rfl, (Way.chars_append u _).trans (List.append_nil _)⟩

/-- **The check of the start is sound.** -/
theorem isEdge_start (he : e.opensAtEdge) (hw : w ∈ e.ways) (hl : w.Leads prev (w.chars ++ t)) :
    IsEdge prev (w.chars ++ t).head? := by
  induction e generalizing w t with
  | empty => cases he
  | one s =>
    obtain ⟨c, hc, rfl⟩ := hw
    rintro ⟨-, hn⟩
    have hsign : isWord c = false := CharSet.hasSignsOnly.isWord_eq_false he hc
    simp [Way.chars, isWordBeside, hsign] at hn
  | look a =>
    obtain rfl : w = [.look a] := hw
    obtain rfl : a = .boundary false := by simpa [opensAtEdge] using he
    exact isEdge_of_holds hl.1
  | cat a b iha _ =>
    obtain ⟨u, hu, v, hv, rfl⟩ := hw
    rw [Way.chars_append, List.append_assoc] at *
    exact iha he hu (Way.leads_append.1 hl).1
  | alt a b iha ihb =>
    obtain ⟨ha, hb⟩ := Bool.and_eq_true_iff.1 he
    rcases hw with hw | hw
    · exact iha ha hw hl
    · exact ihb hb hw hl
  | group i a ih =>
    obtain ⟨u, hu, rfl, hchars⟩ := mem_ways_group hw
    rw [hchars] at hl ⊢
    have hlu : Way.Leads u prev (Way.chars u ++ t) := (Way.leads_append.1 hl).1
    exact ih he hu hlu
  | rep min max greedy a ih =>
    obtain ⟨hmin, ha⟩ := Bool.and_eq_true_iff.1 he
    obtain ⟨vs, rfl, hvs, hlen⟩ := mem_ways_rep hw
    cases vs with
    | nil =>
      obtain rfl : min = 0 := by simpa using hlen
      cases hmin
    | cons v vs =>
      rw [List.flatten_cons, Way.chars_append, List.append_assoc] at *
      exact ih ha (hvs v (by simp)) (Way.leads_append.1 hl).1

/-- **The check of the end is sound.** -/
theorem isEdge_end (he : e.closesAtEdge) (hw : w ∈ e.ways) (hl : w.Leads prev (w.chars ++ t)) :
    IsEdge (w.chars.getLast?.or prev) t.head? := by
  induction e generalizing w prev with
  | empty => cases he
  | one s =>
    obtain ⟨c, hc, rfl⟩ := hw
    rintro ⟨hp, -⟩
    have hsign : isWord c = false := CharSet.hasSignsOnly.isWord_eq_false he hc
    simp [Way.chars, isWordBeside, hsign] at hp
  | look a =>
    obtain rfl : w = [.look a] := hw
    obtain rfl : a = .boundary false := by simpa [closesAtEdge] using he
    exact isEdge_of_holds hl.1
  | cat a b _ ihb =>
    obtain ⟨u, hu, v, hv, rfl⟩ := hw
    rw [Way.chars_append, List.append_assoc] at *
    rw [getLast?_append_or]
    exact ihb he hv (Way.leads_append.1 hl).2
  | alt a b iha ihb =>
    obtain ⟨ha, hb⟩ := Bool.and_eq_true_iff.1 he
    rcases hw with hw | hw
    · exact iha ha hw hl
    · exact ihb hb hw hl
  | group i a ih =>
    obtain ⟨u, hu, rfl, hchars⟩ := mem_ways_group hw
    rw [hchars] at hl ⊢
    have hlu : Way.Leads u prev (Way.chars u ++ t) := (Way.leads_append.1 hl).1
    exact ih he hu hlu
  | rep min max greedy a ih =>
    obtain ⟨hmin, ha⟩ := Bool.and_eq_true_iff.1 he
    obtain ⟨vs, rfl, hvs, hlen⟩ := mem_ways_rep hw
    -- The last round.
    rcases List.eq_nil_or_concat vs with rfl | ⟨us, v, rfl⟩
    · obtain rfl : min = 0 := by simpa using hlen
      cases hmin
    · rw [List.concat_eq_append, List.flatten_append, List.flatten_singleton, Way.chars_append,
        List.append_assoc] at *
      rw [getLast?_append_or]
      exact ih ha (hvs v (by simp)) (Way.leads_append.1 hl).2

/-- **No word goes over the start of a match** of an expression that opens at an edge. -/
theorem isEdge_before (he : e.opensAtEdge) {r : Run} (h : e.toMarked.matchAt? prev t = some r) :
    IsEdge prev t.head? := by
  obtain ⟨w, hw, hl, rfl⟩ := Marked.reads_matchAt? h
  obtain ⟨v, rfl⟩ := hl.exists_append
  exact isEdge_start he (ways_toMarked e ▸ hw) hl

/-- **No word goes over the end of a match** of an expression that closes at an edge. -/
theorem isEdge_behind (he : e.closesAtEdge) {r : Run}
    (h : e.toMarked.matchAt? prev (r.taken ++ t) = some r) (hr : r.taken ≠ []) :
    IsEdge r.taken.getLast? t.head? := by
  obtain ⟨w, hw, hl, rfl⟩ := Marked.reads_matchAt? h
  rw [Way.taken_run] at *
  rw [← getLast?_or_of_ne_nil hr prev]
  exact isEdge_end he (ways_toMarked e ▸ hw) hl

end Expr

end CodeMarkup.Regex
