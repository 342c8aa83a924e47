import CodeMarkup.Proofs.Regex.Ways

/-!
# The ways through an expression as it is written

An expression as it is written has counted repetitions, and the marked expression made
from it has copies, stations and choices to stop instead. Both have the same ways
through them (`CodeMarkup.Regex.Expr.ways_toMarked`), so what a match looks like can be
read off the written form (`CodeMarkup.Regex.Expr.ways`).

The one identity behind this is about optional rounds: `k` of them, nested, are `k`
times the choice between a round and nothing
(`CodeMarkup.Regex.one_add_pow_succ`).

What a repetition is made into is told once (`CodeMarkup.Regex.Expr.Rounds`), whatever is to be
shown of its copies, so each property of marked expressions is a short case analysis there.
-/

namespace CodeMarkup.Regex

open Computability

/-- Optional rounds, the first of them taken or all of them left out. -/
theorem one_add_pow_succ (L : Language Step) (k : Nat) :
    (1 + L) ^ (k + 1) = L * (1 + L) ^ k + 1 := by
  induction k with
  | zero => rw [pow_zero, mul_one, pow_one, add_comm]
  | succ k ih =>
    calc (1 + L) ^ (k + 2) = (1 + L) ^ (k + 1) + L * (1 + L) ^ (k + 1) := by
          rw [pow_succ', add_mul, one_mul]
      _ = L * (1 + L) ^ k + L * (1 + L) ^ (k + 1) + 1 := by
          conv_lhs => arg 1; rw [ih]
          rw [add_right_comm]
      _ = L * (1 + L) ^ (k + 1) + 1 := by
          -- Fewer rounds are among more of them.
          congr 1
          rw [← mul_add, pow_succ', add_mul, one_mul, ← add_assoc, Language.add_self]

namespace Expr

/-- The ways through an expression. -/
def ways : Expr → Language Step
  | empty => 1
  | one s => {w | ∃ c, s.contains c ∧ w = [.take c]}
  | look a => {[.look a]}
  | cat a b => a.ways * b.ways
  | alt a b => a.ways + b.ways
  | rep min none _ a => a.ways ^ min * a.ways∗
  | rep min (some max) _ a => a.ways ^ min * (1 + a.ways) ^ (max - min)
  | group i a => {[.opens i]} * (a.ways * {[.closes i]})

/-! ### Copies of an expression -/

section Copies

variable {L : Language Step}

theorem ways_choice (greedy : Bool) (a b : Marked) : (choice greedy a b).ways = a.ways + b.ways := by
  cases greedy
  · exact add_comm _ _
  · rfl

theorem ways_chain {as : List Marked} (h : ∀ a ∈ as, a.ways = L) (last : Marked) :
    (chain as last).ways = L ^ as.length * last.ways := by
  induction as with
  | nil => simp [chain]
  | cons a as ih =>
    have hcat : (chain (a :: as) last).ways = a.ways * (chain as last).ways := rfl
    rw [hcat, h a (by simp), ih fun b hb => h b (by simp [hb]), List.length_cons, pow_succ',
      mul_assoc]

theorem ways_nested (greedy : Bool) {as : List Marked} (h : ∀ a ∈ as, a.ways = L) :
    (nested greedy as).ways = (1 + L) ^ as.length := by
  induction as with
  | nil => simp [nested, Marked.ways]
  | cons a as ih =>
    rw [nested, ways_choice, Marked.ways, Marked.ways, h a (by simp),
      ih fun b hb => h b (by simp [hb]), List.length_cons, one_add_pow_succ]

end Copies

/-! ### The marked expression -/

/-- That a computation with free numbers gives something with the property `P`, whatever
numbers are free. -/
def Gives {α : Type} (P : α → Prop) (x : StateM Nat α) : Prop := ∀ s, P (x.run s).1

theorem Gives.pure {α : Type} {P : α → Prop} {a : α} (h : P a) :
    Gives P (Pure.pure a : StateM Nat α) := fun _ => h

theorem Gives.bind {α β : Type} {P : α → Prop} {Q : β → Prop} {x : StateM Nat α}
    {f : α → StateM Nat β} (hx : Gives P x) (hf : ∀ a, P a → Gives Q (f a)) : Gives Q (x >>= f) :=
  fun s => hf _ (hx s) (x.run s).2

theorem Gives.mono {α : Type} {P Q : α → Prop} {x : StateM Nat α} (hx : Gives P x)
    (h : ∀ a, P a → Q a) : Gives Q x := fun s => h _ (hx s)

/-- A number may be taken on the way. -/
theorem Gives.fresh {β : Type} {Q : β → Prop} {f : Nat → StateM Nat β} (hf : ∀ l, Gives Q (f l)) :
    Gives Q (mark.fresh >>= f) :=
  Gives.bind (P := fun _ => True) (fun _ => trivial) fun l _ => hf l

theorem Gives.copies {P : Marked → Prop} {x : StateM Nat Marked} (hx : Gives P x) (n : Nat) :
    Gives (fun as : List Marked => (∀ a ∈ as, P a) ∧ as.length = n)
      ((List.replicate n ()).mapM fun _ => x) := by
  induction n with
  | zero => exact .pure ⟨by rintro _ ⟨⟩, rfl⟩
  | succ n ih =>
    rw [List.replicate_succ, List.mapM_cons]
    refine hx.bind fun a ha => ih.bind fun as has => .pure ⟨?_, congrArg (· + 1) has.2⟩
    rintro b (_ | ⟨_, hb⟩)
    · exact ha
    · exact has.1 b hb

/-- The body of a repetition, with or without stations, made from an expression with the
property `P`. -/
inductive LoopBody (P : Marked → Prop) (greedy : Bool) : Marked → Prop where
  /-- Each round takes something. -/
  | plain {b : Marked} (h : P b) : LoopBody P greedy (.plus greedy b)
  /-- A round may take nothing. -/
  | stations (l k : Nat) {b : Marked} (h : P b) :
      LoopBody P greedy (.plus greedy (.enter l (.join k b)))

/-- What a repetition is made into, with its bounds; each copy of what is repeated has the
property `P`. -/
inductive Rounds (P : Marked → Prop) (greedy : Bool) : Nat → Option Nat → Marked → Prop where
  /-- Any number of rounds. -/
  | any {b : Marked} (hb : LoopBody P greedy b) : Rounds P greedy 0 none (choice greedy b .empty)
  /-- Any number of rounds, with a station behind them. -/
  | anyJoined (l : Nat) {b : Marked} (hb : LoopBody P greedy b) :
      Rounds P greedy 0 none (.join l (choice greedy b .empty))
  /-- All rounds but the last ones are copies. -/
  | atLeast {n : Nat} {as : List Marked} {b : Marked} (has : (∀ a ∈ as, P a) ∧ as.length = n)
      (hb : LoopBody P greedy b) : Rounds P greedy (n + 1) none (chain as b)
  /-- A number of rounds. -/
  | exactly {n m : Nat} {as : List Marked} (has : (∀ a ∈ as, P a) ∧ as.length = n) (hle : m ≤ n) :
      Rounds P greedy n (some m) (chain as .empty)
  /-- A number of rounds, and then optional rounds. -/
  | upTo {n m : Nat} {as bs : List Marked} (has : (∀ a ∈ as, P a) ∧ as.length = n)
      (hbs : (∀ b ∈ bs, P b) ∧ bs.length = m - n) :
      Rounds P greedy n (some m) (chain as (nested greedy bs))
  /-- A number of rounds, and then optional rounds with a station behind them. -/
  | upToJoined (l : Nat) {n m : Nat} {as bs : List Marked}
      (has : (∀ a ∈ as, P a) ∧ as.length = n) (hbs : (∀ b ∈ bs, P b) ∧ bs.length = m - n) :
      Rounds P greedy n (some m) (chain as (.join l (nested greedy bs)))

section Rounds

variable {P : Marked → Prop} {a : Expr}

theorem gives_loopBody (h : ∀ loop, Gives P (a.mark loop)) (inner greedy : Bool) :
    Gives (LoopBody P greedy)
      (if inner = true then do
        let body ← a.mark true
        return Marked.plus greedy (.enter (← mark.fresh) (.join (← mark.fresh) body))
      else return Marked.plus greedy (← a.mark false)) := by
  split
  · exact (h true).bind fun b hb => .fresh fun l => .fresh fun k => .pure (.stations l k hb)
  · exact (h false).bind fun b hb => .pure (.plain hb)

theorem gives_counted {n m : Nat} {first more : List Marked}
    (hfirst : (∀ b ∈ first, P b) ∧ first.length = n)
    (hmore : (∀ b ∈ more, P b) ∧ more.length = m - n) (inner greedy : Bool) :
    Gives (Rounds P greedy n (some m))
      (if m ≤ n then return chain first .empty
      else if inner = true then
        return chain first (Marked.join (← mark.fresh) (nested greedy more))
      else return chain first (nested greedy more)) := by
  split
  · next hle => exact .pure (.exactly hfirst hle)
  · split
    · exact .fresh fun l => .pure (.upToJoined l hfirst hmore)
    · exact .pure (.upTo hfirst hmore)

/-- **What a repetition is made into** consists of what the repeated expression is made into. -/
theorem gives_rep (h : ∀ loop, Gives P (a.mark loop)) (min : Nat) (max : Option Nat)
    (greedy loop : Bool) : Gives (Rounds P greedy min max) ((rep min max greedy a).mark loop) := by
  have hcopies := fun n => Gives.copies (h loop) n
  have hbody := gives_loopBody h (loop || a.nullable) greedy
  unfold mark
  rcases min with _ | n <;> rcases max with _ | m
  · refine hbody.bind fun b hb => ?_
    dsimp only
    split
    · exact .fresh fun l => .pure (.anyJoined l hb)
    · exact .pure (.any hb)
  · exact (hcopies 0).bind fun as has => (hcopies (m - 0)).bind fun bs hbs =>
      gives_counted has hbs (loop || a.nullable) greedy
  · exact (hcopies n).bind fun as has => hbody.bind fun b hb => .pure (.atLeast has hb)
  · exact (hcopies (n + 1)).bind fun as has => (hcopies (m - (n + 1))).bind fun bs hbs =>
      gives_counted has hbs (loop || a.nullable) greedy

end Rounds

/-- The body of a repetition is gone through once or more. -/
theorem LoopBody.ways {L : Language Step} {greedy : Bool} {b : Marked}
    (h : LoopBody (·.ways = L) greedy b) : b.ways = L * L∗ := by
  cases h with
  | plain h => simp only [Marked.ways, h]
  | stations l k h => simp only [Marked.ways, h]

/-- **Copies, stations and choices to stop** have the ways of a repetition. -/
theorem Rounds.ways {a : Expr} {greedy : Bool} {min : Nat} {max : Option Nat} {b : Marked}
    (h : Rounds (·.ways = a.ways) greedy min max b) : b.ways = (rep min max greedy a).ways := by
  have hany : ∀ b : Marked, LoopBody (·.ways = a.ways) greedy b →
      (choice greedy b .empty).ways = (rep 0 none greedy a).ways := fun b hb => by
    rw [ways_choice, hb.ways, Marked.ways, Expr.ways, pow_zero, one_mul, add_comm,
      Language.one_add_self_mul_kstar_eq_kstar]
  have hupTo : ∀ {n m : Nat} {as bs : List Marked}, (∀ a' ∈ as, a'.ways = a.ways) ∧ as.length = n →
      (∀ b ∈ bs, b.ways = a.ways) ∧ bs.length = m - n →
        (chain as (nested greedy bs)).ways = (rep n (some m) greedy a).ways := fun has hbs => by
    rw [ways_chain has.1, ways_nested greedy hbs.1, has.2, hbs.2, Expr.ways]
  cases h with
  | any hb => exact hany _ hb
  | anyJoined l hb => exact hany _ hb
  | atLeast has hb => rw [ways_chain has.1, hb.ways, has.2, Expr.ways, pow_succ, mul_assoc]
  | exactly has hle =>
    rw [ways_chain has.1, has.2, Expr.ways, Nat.sub_eq_zero_of_le hle, pow_zero, Marked.ways]
  | upTo has hbs => exact hupTo has hbs
  | upToJoined l has hbs =>
    rw [← hupTo has hbs, ways_chain has.1, ways_chain has.1, Marked.ways]

/-- **The marked expression has the ways of the expression.** -/
theorem gives_mark (e : Expr) (loop : Bool) : Gives (·.ways = e.ways) (e.mark loop) := by
  induction e generalizing loop with
  | empty | one | look => exact .pure rfl
  | cat a b iha ihb =>
    refine (iha loop).bind fun a' ha => (ihb loop).bind fun b' hb => .pure ?_
    simp only [Marked.ways, ha, hb, ways]
  | alt a b iha ihb =>
    refine (iha loop).bind fun a' ha => (ihb loop).bind fun b' hb => ?_
    have h : (Marked.alt a' b').ways = (alt a b).ways := by simp only [Marked.ways, ha, hb, ways]
    dsimp only
    split
    · exact .fresh fun l => .pure h
    · exact .pure h
  | group i a ih =>
    refine (ih loop).bind fun a' ha => .pure ?_
    simp only [Marked.ways, ha, ways]
  | rep min max greedy a ih => exact (gives_rep ih min max greedy loop).mono fun _ h => h.ways

@[simp] theorem ways_toMarked (e : Expr) : e.toMarked.ways = e.ways := gives_mark e false 0

end Expr

end CodeMarkup.Regex
