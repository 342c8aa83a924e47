import CodeMarkup.Proofs.Regex.Cuts
import CodeMarkup.Proofs.Regex.Search
import CodeMarkup.Proofs.Regex.Shapes

/-!
# Where there is a way there is a match

The best match at a place is the run of a way that leads from there
(`CodeMarkup.Regex.Marked.reads_matchAt?`). Here is the other direction for plain expressions:
**if any way leads from a place there is a match**
(`CodeMarkup.Regex.Marked.exists_matchAt?`), although the match may be another one. It is this
that tells that a gap between matches has nothing in it that could have been matched.

The proof follows the search along the way. In a repetition it goes round by round
(`CodeMarkup.Regex.Marked.isSome_search_rounds`), and at a branch either side will do.

Without assertions each text that an expression takes is a way that leads from any place where the
text stands, whatever is around it (`CodeMarkup.Regex.Expr.Takes.exists_matchAt?`).
-/

namespace CodeMarkup.Regex

open Computability

/-! ### Ways one after the other -/

namespace Way

/-- **Two ways one after the other** lead from a place if the second one leads from behind the
first. -/
theorem leads_append {v w : Way} {prev : Option Char} {t : Text} :
    Leads (v ++ w) prev (chars v ++ t) ↔
      Leads v prev (chars v ++ t) ∧ Leads w ((chars v).getLast?.or prev) t := by
  induction v generalizing prev with
  | nil => simp [Leads, chars]
  | cons s v ih =>
    cases s with
    | take c =>
      have hlast := getLast?_cons_or c (chars v) prev
      simp only [List.cons_append, Leads, chars, hlast, List.cons.injEq, true_and,
        exists_eq_left', ih]
    | look a => simp only [List.cons_append, Leads, chars, ih, and_assoc]
    | opens i => exact ih
    | closes i => exact ih

end Way

namespace Marked

/-! ### The search along a way -/

section Rounds

variable {a : Marked} {greedy : Bool} {k : Onward}

theorem isSome_again {prev : Option Char} {t : Text} {round : Onward}
    (h : (round prev t).isSome ∨ (k prev t).isSome) :
    (Onward.again greedy round k prev t).isSome := by
  unfold Onward.again
  rcases h with h | h <;> split <;> simp [h]

/-- A repetition is searched along rounds that lead from a place, if the search of one round
is. -/
theorem isSome_search_rounds (ha : a.consumes)
    (hround : ∀ {k : Onward} {w : Way} {prev : Option Char} {t : Text}, w ∈ a.ways →
      w.Leads prev (w.chars ++ t) → (k (w.chars.getLast?.or prev) t).isSome →
        (a.search k prev (w.chars ++ t)).isSome)
    {w : Way} (hw : w ∈ a.ways) {ws : List Way} (hws : ∀ v ∈ ws, v ∈ a.ways)
    {prev : Option Char} {t : Text}
    (hl : (w ++ ws.flatten).Leads prev ((w ++ ws.flatten).chars ++ t))
    (hk : (k ((w ++ ws.flatten).chars.getLast?.or prev) t).isSome) :
    ((plus greedy a).search k prev ((w ++ ws.flatten).chars ++ t)).isSome := by
  induction ws generalizing w prev with
  | nil =>
    rw [List.flatten_nil, List.append_nil] at *
    rw [search_plus ha]
    exact hround hw hl (isSome_again (.inr hk))
  | cons v ws ih =>
    obtain ⟨hv, hws⟩ := List.forall_mem_cons.1 hws
    rw [List.flatten_cons, Way.chars_append, List.append_assoc] at *
    obtain ⟨hlw, hlv⟩ := Way.leads_append.1 hl
    rw [search_plus ha]
    refine hround hw hlw (isSome_again (.inl (ih hv hws hlv ?_)))
    rwa [← getLast?_append_or]

end Rounds

/-- **The search finds something along any way**, if what follows the expression does behind
the way. -/
theorem isSome_search {m : Marked} (hp : m.plain) {k : Onward} {w : Way} {prev : Option Char}
    {t : Text} (hw : w ∈ m.ways) (hl : w.Leads prev (w.chars ++ t))
    (hk : (k (w.chars.getLast?.or prev) t).isSome) :
    (m.search k prev (w.chars ++ t)).isSome := by
  induction m generalizing k w prev t with
  | empty =>
    obtain rfl : w = [] := hw
    exact hk
  | look a =>
    obtain rfl : w = [.look a] := hw
    have ha : a.holds ⟨prev, t.head?⟩ := hl.1
    change (if a.holds ⟨prev, t.head?⟩ then k prev t else none).isSome
    rw [if_pos ha]
    exact hk
  | one s mark =>
    obtain ⟨c, hc, rfl⟩ := hw
    simpa [search, Way.chars, hc] using hk
  | cat a b iha ihb =>
    obtain ⟨hpa, hpb⟩ := Bool.and_eq_true_iff.1 hp
    obtain ⟨u, hu, v, hv, rfl⟩ := hw
    rw [Way.chars_append, List.append_assoc] at *
    obtain ⟨hlu, hlv⟩ := Way.leads_append.1 hl
    refine iha hpa hu hlu (ihb hpb hv hlv ?_)
    rwa [← getLast?_append_or]
  | alt a b iha ihb =>
    obtain ⟨hpa, hpb⟩ := Bool.and_eq_true_iff.1 hp
    simp only [search, Option.isSome_or, Bool.or_eq_true]
    rcases hw with hw | hw
    · exact .inl (iha hpa hw hl hk)
    · exact .inr (ihb hpb hw hl hk)
  | group i a ih =>
    obtain ⟨u, hu, rfl⟩ : ∃ u ∈ a.ways, w = .opens i :: (u ++ [.closes i]) := by
      obtain ⟨_, rfl, _, ⟨u, hu, _, rfl, rfl⟩, rfl⟩ := hw
      exact ⟨u, hu, rfl⟩
    have hchars : Way.chars (.opens i :: (u ++ [.closes i])) = Way.chars u :=
      (Way.chars_append u _).trans (List.append_nil _)
    rw [hchars] at hl hk ⊢
    have hlu : Way.Leads u prev (Way.chars u ++ t) := (Way.leads_append.1 hl).1
    simpa [search] using ih hp hu hlu (by simpa using hk)
  | enter | join => cases hp
  | plus greedy a ih =>
    obtain ⟨hpa, hca⟩ := Bool.and_eq_true_iff.1 hp
    obtain ⟨u, hu, v, hv, rfl⟩ := hw
    obtain ⟨vs, rfl, hvs⟩ := Language.mem_kstar.1 hv
    exact isSome_search_rounds hca (fun hw hl hk => ih hpa hw hl hk) hu hvs hl hk

/-- **Where a way leads from a place there is a match.** -/
theorem exists_matchAt? {m : Marked} (hp : m.plain) {w : Way} {prev : Option Char} {t : Text}
    (hw : w ∈ m.ways) (hl : w.Leads prev (w.chars ++ t)) (hne : w.chars ≠ []) :
    ∃ r, m.matchAt? prev (w.chars ++ t) = some r := by
  have hsome := isSome_search hp (k := .arrive) hw hl rfl
  obtain ⟨c, u, hc⟩ := List.exists_cons_of_ne_nil hne
  rw [hc, List.cons_append] at hsome ⊢
  rw [matchAt?_eq_search hp]
  exact Option.isSome_iff_exists.1 hsome

end Marked

namespace Expr

/-- Whether there is no assertion in an expression. -/
def IsBlind (e : Expr) : Prop := ∀ a, e.allows (.look a) = false

/-- A way without assertions leads from any place where what it takes stands. -/
theorem leads_of_isBlind {w : Way} (h : ∀ a, .look a ∉ w) (prev : Option Char) (t : Text) :
    w.Leads prev (w.chars ++ t) := by
  induction w generalizing prev with
  | nil => trivial
  | cons s w ih =>
    have ih := ih fun a ha => h a (List.mem_cons_of_mem _ ha)
    cases s with
    | take c => exact ⟨_, rfl, ih _⟩
    | look a => exact absurd List.mem_cons_self (h a)
    | opens i => exact ih prev
    | closes i => exact ih prev

/-- **What an expression without assertions takes is matched where it stands**, or else something
is that is not empty. -/
theorem Takes.exists_matchAt? {e : Expr} {x : Text} (h : e.Takes x) (hp : e.toMarked.plain)
    (hblind : e.IsBlind) (hne : e.nullable = false) (prev : Option Char) (t : Text) :
    ∃ r, e.toMarked.matchAt? prev (x ++ t) = some r ∧ r.taken ≠ [] := by
  have hx := h.ne_nil hne
  obtain ⟨w, hw, rfl⟩ := h
  have hlook : ∀ a, .look a ∉ w := fun a ha => by
    simpa [hblind a] using allows_of_mem hw ha
  have hl := leads_of_isBlind hlook prev t
  obtain ⟨r, hr⟩ := Marked.exists_matchAt? hp (ways_toMarked e ▸ hw) hl hx
  exact ⟨r, hr, (extends_of_matchAt? hr).takes.ne_nil hne⟩

end Expr

end CodeMarkup.Regex
