import CodeMarkup.Proofs.Regex.Expressions

/-!
# The shapes of matches

What a match looks like, read off the expression: which texts an expression takes on its
ways (`CodeMarkup.Regex.Expr.Takes`), and what it makes of the run behind it
(`CodeMarkup.Regex.Expr.Extends`). Both follow the factors and the branches of an
expression, and where there are no groups in it the second is no more than the first
(`CodeMarkup.Regex.Expr.Extends.flat`). A group with no group in it adds the text
that it takes to the groups of the run (`CodeMarkup.Regex.Expr.Extends.group`). These
are all the groups that the languages have, so **of each of their matches one can say
what its groups took and that they spell it out**.

Which characters may occur in a match is read off the sets of the expression
(`CodeMarkup.Regex.Expr.allows`).
-/

namespace CodeMarkup.Regex

open Computability

namespace Way

theorem take_mem_iff {w : Way} {c : Char} : .take c ∈ w ↔ c ∈ w.chars := by
  induction w with
  | nil => simp [chars]
  | cons s w ih => cases s <;> simp [chars, ih]

theorem chars_flatten (ws : List Way) : chars ws.flatten = (ws.map chars).flatten := by
  induction ws with
  | nil => rfl
  | cons w ws ih => rw [List.flatten_cons, chars_append, ih, List.map_cons, List.flatten_cons]

/-- **A way without groups** takes its characters, for the groups that are pending too. -/
theorem before_of_flat {w : Way} (h : ∀ i, .opens i ∉ w ∧ .closes i ∉ w) (r : Run) :
    w.before r =
      ⟨w.chars ++ r.taken, r.pending.map fun g => { g with text := w.chars ++ g.text },
        r.groups⟩ := by
  induction w with
  | nil => simp [chars]
  | cons s w ih =>
    have ih := ih fun i => ⟨fun hi => (h i).1 (by simp [hi]), fun hi => (h i).2 (by simp [hi])⟩
    rw [before_cons, ih]
    cases s with
    | take c => simp [Step.before, Run.push, Capture.push, chars]
    | look a => rfl
    | opens i => exact absurd List.mem_cons_self (h i).1
    | closes i => exact absurd List.mem_cons_self (h i).2

end Way

/-- The run behind the end of a group that is met for the first time. -/
theorem Run.openGroup_of_forall_ne {i : Nat} {r : Run} (h : ∀ g ∈ r.groups, g.number ≠ i) :
    r.openGroup i = { r with pending := ⟨i, [], r.taken⟩ :: r.pending } := by
  have hany : ¬r.groups.any (·.number = i) := by
    rw [List.any_eq_true]
    rintro ⟨g, hg, hi⟩
    exact h g hg (by simpa using hi)
  rw [openGroup, if_neg hany]

namespace Expr

/-! ### The steps of an expression -/

/-- Whether a step is one of the steps that an expression is made of. -/
def allows : Expr → Step → Bool
  | one s, .take c => s.contains c
  | look a, s => s = .look a
  | cat a b, s => a.allows s || b.allows s
  | alt a b, s => a.allows s || b.allows s
  | rep _ _ _ a, s => a.allows s
  | group i a, s => s = .opens i || s = .closes i || a.allows s
  | _, _ => false

/-- **A way through a repetition** is its rounds, one after the other, and there are as many
as are asked for. -/
theorem mem_ways_rep {min : Nat} {max : Option Nat} {greedy : Bool} {e : Expr} {w : Way}
    (hw : w ∈ (rep min max greedy e).ways) :
    ∃ vs : List Way, w = vs.flatten ∧ (∀ v ∈ vs, v ∈ e.ways) ∧ min ≤ vs.length := by
  cases max with
  | none =>
    obtain ⟨u, hu, v, hv, rfl⟩ := hw
    obtain ⟨us, rfl, hlen, hus⟩ := Language.mem_pow.1 hu
    obtain ⟨vs, rfl, hvs⟩ := Language.mem_kstar.1 hv
    refine ⟨us ++ vs, by simp, fun v hv => ?_, by simp [hlen]⟩
    rcases List.mem_append.1 hv with hv | hv
    · exact hus v hv
    · exact hvs v hv
  | some max =>
    obtain ⟨u, hu, v, hv, rfl⟩ := hw
    obtain ⟨us, rfl, hlen, hus⟩ := Language.mem_pow.1 hu
    obtain ⟨vs, rfl, -, hvs⟩ := Language.mem_pow.1 hv
    -- A round that may be left out and is left out takes nothing.
    refine ⟨us ++ vs.filter (· ≠ []), ?_, fun v hv => ?_, by simp [hlen]⟩
    · rw [List.flatten_append, List.flatten_filter_ne_nil]
    · rcases List.mem_append.1 hv with hv | hv
      · exact hus v hv
      · obtain ⟨hv, hne⟩ := List.mem_filter.1 hv
        rcases hvs v hv with rfl | hv
        · simp at hne
        · exact hv

/-- **The steps of a way are steps of the expression.** -/
theorem allows_of_mem {e : Expr} {w : Way} (hw : w ∈ e.ways) {s : Step} (hs : s ∈ w) :
    e.allows s := by
  induction e generalizing w with
  | empty =>
    obtain rfl : w = [] := hw
    cases hs
  | one t =>
    obtain ⟨c, hc, rfl⟩ := hw
    obtain rfl := List.mem_singleton.1 hs
    exact hc
  | look a =>
    obtain rfl : w = [.look a] := hw
    simpa [allows] using hs
  | cat a b iha ihb =>
    obtain ⟨u, hu, v, hv, rfl⟩ := hw
    rcases List.mem_append.1 hs with hs | hs
    · simp [allows, iha hu hs]
    · simp [allows, ihb hv hs]
  | alt a b iha ihb =>
    rcases hw with hw | hw
    · simp [allows, iha hw hs]
    · simp [allows, ihb hw hs]
  | rep min max greedy a ih =>
    obtain ⟨vs, rfl, hvs, -⟩ := mem_ways_rep hw
    obtain ⟨v, hv, hsv⟩ := List.mem_flatten.1 hs
    exact ih (hvs v hv) hsv
  | group i a ih =>
    obtain ⟨_, rfl, _, ⟨u, hu, _, rfl, rfl⟩, rfl⟩ := hw
    simp only [List.mem_append, List.mem_singleton] at hs
    rcases hs with rfl | hs | rfl
    · simp [allows]
    · simp [allows, ih hu hs]
    · simp [allows]

/-! ### The texts that an expression takes -/

/-- That an expression takes the text `x` on one of its ways. -/
def Takes (e : Expr) (x : Text) : Prop := ∃ w ∈ e.ways, Way.chars w = x

variable {e : Expr} {es : List Expr} {x : Text}

theorem takes_one {s : CharSet} : (one s).Takes x ↔ ∃ c, s.contains c ∧ x = [c] := by
  constructor
  · rintro ⟨_, ⟨c, hc, rfl⟩, rfl⟩
    exact ⟨c, hc, rfl⟩
  · rintro ⟨c, hc, rfl⟩
    exact ⟨[.take c], ⟨c, hc, rfl⟩, rfl⟩

theorem takes_cat {a b : Expr} :
    (cat a b).Takes x ↔ ∃ y z, a.Takes y ∧ b.Takes z ∧ x = y ++ z := by
  constructor
  · rintro ⟨_, ⟨u, hu, v, hv, rfl⟩, rfl⟩
    exact ⟨_, _, ⟨u, hu, rfl⟩, ⟨v, hv, rfl⟩, Way.chars_append u v⟩
  · rintro ⟨_, _, ⟨u, hu, rfl⟩, ⟨v, hv, rfl⟩, rfl⟩
    exact ⟨u ++ v, ⟨u, hu, v, hv, rfl⟩, Way.chars_append u v⟩

theorem takes_alt {a b : Expr} : (alt a b).Takes x ↔ a.Takes x ∨ b.Takes x := by
  constructor
  · rintro ⟨w, hw | hw, rfl⟩
    · exact .inl ⟨w, hw, rfl⟩
    · exact .inr ⟨w, hw, rfl⟩
  · rintro (⟨w, hw, rfl⟩ | ⟨w, hw, rfl⟩)
    · exact ⟨w, .inl hw, rfl⟩
    · exact ⟨w, .inr hw, rfl⟩

theorem takes_group {i : Nat} : (group i e).Takes x ↔ e.Takes x := by
  have hchars : ∀ u : Way, Way.chars (.opens i :: (u ++ [.closes i])) = u.chars := by
    intro u
    change Way.chars (u ++ [.closes i]) = _
    rw [Way.chars_append]
    exact List.append_nil _
  constructor
  · rintro ⟨_, ⟨_, rfl, _, ⟨u, hu, _, rfl, rfl⟩, rfl⟩, rfl⟩
    exact ⟨u, hu, (hchars u).symm⟩
  · rintro ⟨u, hu, rfl⟩
    exact ⟨_, ⟨[.opens i], rfl, _, ⟨u, hu, [.closes i], rfl, rfl⟩, rfl⟩, hchars u⟩

/-- What a repetition takes is what its rounds take, one after the other; if one round is
asked for there is one. -/
theorem takes_rep {min : Nat} {max : Option Nat} {greedy : Bool}
    (h : (rep min max greedy e).Takes x) :
    ∃ xs : List Text, x = xs.flatten ∧ (∀ y ∈ xs, e.Takes y) ∧ min ≤ xs.length := by
  obtain ⟨w, hw, rfl⟩ := h
  obtain ⟨vs, rfl, hvs, hlen⟩ := mem_ways_rep hw
  refine ⟨vs.map Way.chars, Way.chars_flatten vs, fun y hy => ?_, by simpa using hlen⟩
  obtain ⟨v, hv, rfl⟩ := List.mem_map.1 hy
  exact ⟨v, hvs v hv, rfl⟩

/-- What may be left out takes nothing, or what it takes. -/
theorem takes_optional {greedy : Bool} :
    (rep 0 (some 1) greedy e).Takes x ↔ x = [] ∨ e.Takes x := by
  have hways : (rep 0 (some 1) greedy e).ways = 1 + e.ways := by
    rw [ways, pow_zero, one_mul, Nat.sub_zero, pow_one]
  rw [Takes, hways]
  constructor
  · rintro ⟨w, rfl | hw, rfl⟩
    · exact .inl rfl
    · exact .inr ⟨w, hw, rfl⟩
  · rintro (rfl | ⟨w, hw, rfl⟩)
    · exact ⟨[], .inl rfl, rfl⟩
    · exact ⟨w, .inr hw, rfl⟩

theorem exists_ways {xs : List Text} (h : ∀ y ∈ xs, e.Takes y) :
    ∃ vs : List Way, (∀ v ∈ vs, v ∈ e.ways) ∧ vs.map Way.chars = xs := by
  induction xs with
  | nil => exact ⟨[], by simp, rfl⟩
  | cons y xs ih =>
    obtain ⟨⟨v, hv, rfl⟩, hxs⟩ := List.forall_mem_cons.1 h
    obtain ⟨vs, hvs, rfl⟩ := ih hxs
    exact ⟨v :: vs, List.forall_mem_cons.2 ⟨hv, hvs⟩, rfl⟩

/-- As many rounds as are asked for are taken, one after the other. -/
theorem takes_rounds {max : Option Nat} {greedy : Bool} {xs : List Text}
    (h : ∀ y ∈ xs, e.Takes y) : (rep xs.length max greedy e).Takes xs.flatten := by
  obtain ⟨vs, hvs, rfl⟩ := exists_ways h
  rw [List.length_map, ← Way.chars_flatten]
  have hpow : vs.flatten ∈ e.ways ^ vs.length := Language.mem_pow.2 ⟨vs, rfl, rfl, hvs⟩
  refine ⟨vs.flatten, ?_, rfl⟩
  cases max with
  | none => exact ⟨vs.flatten, hpow, [], Language.nil_mem_kstar _, List.append_nil _⟩
  | some max =>
    have hnil : [] ∈ (1 + e.ways) ^ (max - vs.length) :=
      Language.mem_pow.2 ⟨List.replicate (max - vs.length) [], by simp, by simp, fun w hw => by
        rw [List.eq_of_mem_replicate hw]
        exact .inl rfl⟩
    exact ⟨vs.flatten, hpow, [], hnil, List.append_nil _⟩

/-- Any number of rounds is taken, one after the other, if none is asked for. -/
theorem takes_any_rounds {greedy : Bool} {xs : List Text} (h : ∀ y ∈ xs, e.Takes y) :
    (rep 0 none greedy e).Takes xs.flatten := by
  obtain ⟨vs, hvs, rfl⟩ := exists_ways h
  rw [← Way.chars_flatten]
  exact ⟨vs.flatten, ⟨[], rfl, vs.flatten, Language.mem_kstar.2 ⟨vs, rfl, hvs⟩, rfl⟩, rfl⟩

theorem takes_empty : empty.Takes x ↔ x = [] := by
  constructor
  · rintro ⟨_, rfl, rfl⟩
    rfl
  · rintro rfl
    exact ⟨[], rfl, rfl⟩

theorem takes_look {a : Look} : (look a).Takes x ↔ x = [] := by
  constructor
  · rintro ⟨_, rfl, rfl⟩
    rfl
  · rintro rfl
    exact ⟨[.look a], rfl, rfl⟩

/-- **A character that no set has is in no text that is taken.** -/
theorem Takes.not_mem (h : e.Takes x) {c : Char} (hc : e.allows (.take c) = false) : c ∉ x := by
  obtain ⟨w, hw, rfl⟩ := h
  intro hmem
  rw [allows_of_mem hw (Way.take_mem_iff.2 hmem)] at hc
  cases hc

/-- **An expression that can take nothing is one that is nullable.** -/
theorem Takes.ne_nil (h : e.Takes x) (he : e.nullable = false) : x ≠ [] := by
  induction e generalizing x with
  | empty | look => cases he
  | one s =>
    obtain ⟨c, -, rfl⟩ := takes_one.1 h
    simp
  | cat a b iha ihb =>
    obtain ⟨y, z, hy, hz, rfl⟩ := takes_cat.1 h
    rcases Bool.and_eq_false_iff.1 he with ha | hb
    · simp [iha hy ha]
    · simp [ihb hz hb]
  | alt a b iha ihb =>
    obtain ⟨ha, hb⟩ := Bool.or_eq_false_iff.1 he
    rcases takes_alt.1 h with h | h
    · exact iha h ha
    · exact ihb h hb
  | group i a ih => exact ih (takes_group.1 h) he
  | rep min max greedy a ih =>
    obtain ⟨xs, rfl, hxs, hlen⟩ := takes_rep h
    obtain ⟨hmin, ha⟩ := Bool.or_eq_false_iff.1 he
    cases xs with
    | nil =>
      obtain rfl : min = 0 := by simpa using hlen
      cases hmin
    | cons y xs => simp [ih (hxs y (by simp)) ha]

/-! ### The runs that an expression makes -/

/-- That an expression makes `r'` of the run `r` behind it, on one of its ways. -/
def Extends (e : Expr) (r r' : Run) : Prop := ∃ w ∈ e.ways, Way.before w r = r'

/-- Whether there is no group in an expression. -/
def IsFlat (e : Expr) : Prop := ∀ i, e.allows (.opens i) = false ∧ e.allows (.closes i) = false

variable {r r' : Run}

/-- **A match extends the empty run.** -/
theorem extends_of_matchAt? {prev : Option Char} {t : Text}
    (h : e.toMarked.matchAt? prev t = some r) : e.Extends .nil r := by
  obtain ⟨w, hw, -, rfl⟩ := Marked.reads_matchAt? h
  exact ⟨w, ways_toMarked e ▸ hw, rfl⟩

theorem Extends.takes (h : e.Extends .nil r) : e.Takes r.taken := by
  obtain ⟨w, hw, rfl⟩ := h
  exact ⟨w, hw, (Way.taken_run w).symm⟩

theorem extends_cat {a b : Expr} :
    (cat a b).Extends r r' ↔ ∃ s, b.Extends r s ∧ a.Extends s r' := by
  constructor
  · rintro ⟨_, ⟨u, hu, v, hv, rfl⟩, rfl⟩
    exact ⟨_, ⟨v, hv, rfl⟩, u, hu, (Way.before_append u v r).symm⟩
  · rintro ⟨_, ⟨v, hv, rfl⟩, u, hu, rfl⟩
    exact ⟨u ++ v, ⟨u, hu, v, hv, rfl⟩, Way.before_append u v r⟩

theorem extends_alt {a b : Expr} :
    (alt a b).Extends r r' ↔ a.Extends r r' ∨ b.Extends r r' := by
  constructor
  · rintro ⟨w, hw | hw, rfl⟩
    · exact .inl ⟨w, hw, rfl⟩
    · exact .inr ⟨w, hw, rfl⟩
  · rintro (⟨w, hw, rfl⟩ | ⟨w, hw, rfl⟩)
    · exact ⟨w, .inl hw, rfl⟩
    · exact ⟨w, .inr hw, rfl⟩

/-- What may be left out makes nothing of the run, or what it makes. -/
theorem Extends.optional {greedy : Bool} (h : (rep 0 (some 1) greedy e).Extends r r') :
    r' = r ∨ e.Extends r r' := by
  obtain ⟨w, hw, rfl⟩ := h
  rw [ways, pow_zero, one_mul, Nat.sub_zero, pow_one] at hw
  rcases hw with rfl | hw
  · exact .inl rfl
  · exact .inr ⟨w, hw, rfl⟩

/-- **An expression without groups** puts a text before the run. -/
theorem Extends.flat (h : e.Extends r r') (he : e.IsFlat) :
    ∃ x, e.Takes x ∧
      r' = ⟨x ++ r.taken, r.pending.map fun g => { g with text := x ++ g.text }, r.groups⟩ := by
  obtain ⟨w, hw, rfl⟩ := h
  refine ⟨Way.chars w, ⟨w, hw, rfl⟩, Way.before_of_flat (fun i => ?_) r⟩
  constructor
  · intro hi
    simpa [(he i).1] using allows_of_mem hw hi
  · intro hi
    simpa [(he i).2] using allows_of_mem hw hi

/-- **A group without groups in it** adds the text that it takes to the groups of the run, if
it is met for the first time. -/
theorem Extends.group {i : Nat} (h : (group i e).Extends r r') (he : e.IsFlat)
    (hp : r.pending = []) (hi : ∀ g ∈ r.groups, g.number ≠ i) :
    ∃ x, e.Takes x ∧ r' = ⟨x ++ r.taken, [], ⟨i, x, r.taken⟩ :: r.groups⟩ := by
  obtain ⟨_, ⟨_, rfl, _, ⟨u, hu, _, rfl, rfl⟩, rfl⟩, rfl⟩ := h
  obtain ⟨x, hx, hbefore⟩ := Extends.flat (r := r.openGroup i) ⟨u, hu, rfl⟩ he
  refine ⟨x, hx, ?_⟩
  have hclose : (Way.before (u ++ [.closes i]) r).closeGroup i =
      ⟨x ++ r.taken, [], ⟨i, x, r.taken⟩ :: r.groups⟩ := by
    rw [Way.before_append]
    change (Way.before u (r.openGroup i)).closeGroup i = _
    rw [hbefore, Run.openGroup_of_forall_ne hi, hp]
    simp [Run.closeGroup]
  exact hclose

/-! ### Factors in a row -/

section Factors

variable {as bs : List Expr}

theorem ofFactors_cons_cons (a b : Expr) (es : List Expr) :
    ofFactors (a :: b :: es) = cat a (ofFactors (b :: es)) := rfl

theorem ways_ofFactors (es : List Expr) : (ofFactors es).ways = (es.map ways).prod := by
  induction es with
  | nil => rfl
  | cons a es ih =>
    cases es with
    | nil => simp [ofFactors]
    | cons b es =>
      rw [ofFactors_cons_cons, ways, ih]
      rfl

theorem ways_ofFactors_append (as bs : List Expr) :
    (ofFactors (as ++ bs)).ways = (cat (ofFactors as) (ofFactors bs)).ways := by
  simp [ways_ofFactors, ways]

/-- **Factors in a row** take texts in a row, wherever the row is cut in two. -/
theorem takes_ofFactors_append :
    (ofFactors (as ++ bs)).Takes x ↔
      ∃ y z, (ofFactors as).Takes y ∧ (ofFactors bs).Takes z ∧ x = y ++ z := by
  rw [Takes, ways_ofFactors_append]
  exact takes_cat

theorem extends_ofFactors_append :
    (ofFactors (as ++ bs)).Extends r r' ↔
      ∃ s, (ofFactors bs).Extends r s ∧ (ofFactors as).Extends s r' := by
  rw [Extends, ways_ofFactors_append]
  exact extends_cat

end Factors

end Expr

end CodeMarkup.Regex
