import CodeMarkup.Scanner
import Mathlib.Data.List.Forall2

/-!
# Rows

A list is mapped item by item, if each item can be (`CodeMarkup.mapM_eq_some_iff`), and where a
list has one more item at its end, an item of it is this one or one of those in front
(`CodeMarkup.concat_eq_append_cons_iff`), which is how a log grows. In a text its items stand in a
row, with separators between them, and are read one after the other
(`CodeMarkup.Scanner.separated_join`). The lemma serves the parts of a key and the strings
of an array alike; it says what may come behind the last item: no separator, or one that
no item follows, like the comma behind the last string of an array with lines.
-/

namespace CodeMarkup

/-! ### Lists -/

/-- What a list is mapped to, if every item is mapped to something. -/
theorem mapM_eq_some_iff {α β : Type} {f : α → Option β} {as : List α} {bs : List β} :
    as.mapM f = some bs ↔ List.Forall₂ (fun a b => f a = some b) as bs := by
  induction as generalizing bs with
  | nil => simp [eq_comm]
  | cons a as ih =>
    rw [List.mapM_cons, Option.bind_eq_bind, Option.bind_eq_some_iff, List.forall₂_cons_left_iff]
    constructor
    · rintro ⟨b, hb, h⟩
      obtain ⟨bs', hbs', h⟩ := Option.bind_eq_some_iff.1 h
      exact ⟨b, bs', hb, ih.1 hbs', (Option.some.inj h).symm⟩
    · rintro ⟨b, bs', hb, hbs', rfl⟩
      exact ⟨b, hb, Option.bind_eq_some_iff.2 ⟨bs', ih.2 hbs', rfl⟩⟩

/-- A list comes back if every item does. -/
theorem mapM_map_eq_some {α β : Type} (f : β → Option α) (g : α → β) (h : ∀ a, f (g a) = some a)
    (as : List α) : (as.map g).mapM f = some as := by
  rw [mapM_eq_some_iff, List.forall₂_map_left_iff]
  exact List.forall₂_same.2 fun a _ => h a

/-- A list is mapped to something if and only if every item is. -/
theorem isSome_mapM_iff {α β : Type} {f : α → Option β} {as : List α} :
    (as.mapM f).isSome ↔ ∀ a ∈ as, (f a).isSome := by
  induction as with
  | nil => simp
  | cons a as ih =>
    rw [List.forall_mem_cons, ← ih, List.mapM_cons]
    cases f a <;> cases as.mapM f <;> simp

/-- **Where an item of a list with one more at its end stands**: there, or in front of it. -/
theorem concat_eq_append_cons_iff {α : Type} {as before behind : List α} {a b : α} :
    as ++ [b] = before ++ a :: behind ↔
      (before = as ∧ a = b ∧ behind = []) ∨
        ∃ between, as = before ++ a :: between ∧ behind = between ++ [b] := by
  constructor
  · intro h
    rcases List.eq_nil_or_concat' behind with rfl | ⟨between, c, rfl⟩
    · obtain ⟨rfl, hb⟩ := List.append_inj' h rfl
      cases hb
      exact .inl ⟨rfl, rfl, rfl⟩
    · have hsplit : as ++ [b] = (before ++ a :: between) ++ [c] := by simpa using h
      obtain ⟨rfl, hb⟩ := List.append_inj' hsplit rfl
      cases hb
      exact .inr ⟨between, rfl, rfl⟩
  · rintro (⟨rfl, rfl, rfl⟩ | ⟨between, rfl, rfl⟩)
    · rfl
    · simp

/-! ### Items with separators -/

namespace Scanner

variable {α : Type} {sep : Char} {item : Scanner α}

theorem length_le_length_join (sep : Char) (ws : List Text) :
    ws.length ≤ (Text.join [sep] ws).length + 1 := by
  induction ws with
  | nil => exact Nat.zero_le _
  | cons w ws ih =>
    cases ws with
    | nil => simp
    | cons w' ws =>
      simp only [Text.join, List.length_append, List.length_cons, List.length_nil] at ih ⊢
      omega

/-- **Items with separators between them** are read one after the other, if each one is read off
what may follow it, with something skipped behind it by `skip`, and if no further item
comes behind the last one. -/
theorem separatedUpTo_join {Follows : Text → Prop} {skip : Text → Text}
    (hsep : ∀ t, Follows (sep :: t) ∧ skip (sep :: t) = sep :: t) {ws : List Text} {as : List α}
    (hitems : List.Forall₂ (fun w a => ∀ r, Follows r → item (w ++ r) = some (a, skip r)) ws as)
    (hne : ws ≠ []) {r : Text} (hr : Follows r)
    (hend : ∀ r', skip r = sep :: r' → item r' = none) {n : Nat} (hn : ws.length ≤ n) :
    separatedUpTo sep item n (Text.join [sep] ws ++ r) = (as, skip r) := by
  induction hitems generalizing n with
  | nil => exact absurd rfl hne
  | @cons w a ws as hw hws ih =>
    rw [List.length_cons] at hn
    obtain ⟨n, rfl⟩ := Nat.exists_eq_succ_of_ne_zero (n := n) (by omega)
    rw [separatedUpTo]
    cases hws with
    | nil =>
      rw [Text.join, hw r hr]
      cases hskip : skip r with
      | nil => rfl
      | cons c r' =>
        dsimp only
        split
        · next hc =>
          -- The separator that follows has no item behind it.
          subst hc
          have hnone : (separatedUpTo c item n r').1 = [] := by
            cases n with
            | zero => rfl
            | succ n => rw [separatedUpTo, hend r' hskip]
          cases hrest : separatedUpTo c item n r' with
          | mk found r'' =>
            rw [hrest] at hnone
            subst hnone
            rfl
        · rfl
    | @cons w' a' ws as hw' hws =>
      have hrest := ih (by simp) (n := n) (by simpa using hn)
      rw [Text.join, List.append_assoc, List.append_assoc, List.singleton_append,
        hw _ (hsep _).1, (hsep _).2]
      · dsimp only
        rw [if_pos rfl, hrest]
      · simp

/-- **A row of items with separators is read as the items.** -/
theorem separated_join {Follows : Text → Prop} {skip : Text → Text}
    (hsep : ∀ t, Follows (sep :: t) ∧ skip (sep :: t) = sep :: t) {ws : List Text} {as : List α}
    (hitems : List.Forall₂ (fun w a => ∀ r, Follows r → item (w ++ r) = some (a, skip r)) ws as)
    (hne : ws ≠ []) {r : Text} (hr : Follows r)
    (hend : ∀ r', skip r = sep :: r' → item r' = none) :
    separated sep item (Text.join [sep] ws ++ r) = (as, skip r) := by
  refine separatedUpTo_join hsep hitems hne hr hend ?_
  have := length_le_length_join sep ws
  rw [List.length_append]
  omega

end Scanner

end CodeMarkup
