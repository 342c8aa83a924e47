import CodeMarkup.Language.Patterns
import CodeMarkup.Proofs.Regex.Bounds
import CodeMarkup.Proofs.Splits

/-!
# Rules whose patterns are expressions

What is to be shown of a rule of a language is a statement about the runs that its
expression makes: a match extends the empty run. A rule that wraps its matches keeps
entities if its expression passes the checks of both ends
(`CodeMarkup.Language.keepsEntities_wrap`). For the others one needs to know what the
groups took, and there are two arrangements of them: one group after the other
(`CodeMarkup.Language.run_of_groups`), or one of two
(`CodeMarkup.Language.run_of_either_group`).
-/

namespace CodeMarkup.Language

open Regex Markup Piece

variable {name source : String} {e : Expr} {emit : Run → List Piece}

/-! ### Runs -/

theorem takes_char {c : Char} {x : Text} (h : (char c).Takes x) : x = [c] := by
  obtain ⟨d, hd, rfl⟩ := Expr.takes_one.1 h
  rw [CharSet.contains_single.1 hd]

theorem takes_of_mem_either {es : List Expr} (he : e ∈ es) {x : Text} (h : e.Takes x) :
    (either es).Takes x := by
  induction es with
  | nil => cases he
  | cons a es ih =>
    cases es with
    | nil =>
      obtain rfl := List.mem_singleton.1 he
      exact h
    | cons b es =>
      change (Expr.alt a (either (b :: es))).Takes x
      rw [Expr.takes_alt]
      rcases List.mem_cons.1 he with rfl | he
      · exact .inl h
      · exact .inr (ih he)

theorem takes_word (s : String) : (word s).Takes s.toList := by
  have hfactors : (s.toList.map char).flatMap Expr.factors = s.toList.map char := by
    rw [List.flatMap_map]
    exact (List.map_eq_flatMap ..).symm
  rw [word, Expr.concat, hfactors]
  induction s.toList with
  | nil => exact Expr.takes_empty.2 rfl
  | cons c cs ih =>
    have hc : (char c).Takes [c] := Expr.takes_one.2 ⟨c, CharSet.contains_single.2 rfl, rfl⟩
    cases cs with
    | nil => exact hc
    | cons d cs => exact Expr.takes_cat.2 ⟨[c], d :: cs, hc, ih, rfl⟩

/-- A text is taken by rounds of one character if all of its characters are in the set. -/
theorem takes_many_one {s : CharSet} {x : Text} :
    (many (.one s)).Takes x ↔ ∀ c ∈ x, s.contains c := by
  constructor
  · intro h c hc
    by_contra hs
    exact h.not_mem (by simpa [many, Expr.allows] using hs) hc
  · intro h
    have hrounds : (many (.one s)).Takes (x.map fun c => [c]).flatten := by
      refine Expr.takes_any_rounds fun y hy => ?_
      obtain ⟨c, hc, rfl⟩ := List.mem_map.1 hy
      exact Expr.takes_one.2 ⟨c, h c hc, rfl⟩
    rwa [← List.flatMap_def, List.flatMap_singleton'] at hrounds

theorem contains_notLineFeed :
    (CharSet.compl (.ofList ['\n'])).contains = fun c => decide (c ≠ '\n') := by
  funext c
  simp [CharSet.contains_compl_ofList]

section Groups

variable {a b : Expr} {r : Run}

/-- **The run of two groups**, one after the other. -/
theorem run_of_groups (h : (seq [.group 1 a, .group 2 b]).Extends .nil r) (ha : a.IsFlat)
    (hb : b.IsFlat) :
    ∃ x y, r = ⟨x ++ y, [], [⟨1, x, y⟩, ⟨2, y, []⟩]⟩ ∧ a.Takes x ∧ b.Takes y := by
  obtain ⟨s, h₂, h₁⟩ := Expr.extends_cat.1 h
  obtain ⟨y, hy, rfl⟩ := h₂.group hb rfl (by simp [Run.nil])
  obtain ⟨x, hx, rfl⟩ := h₁.group ha rfl (by simp [Run.nil])
  exact ⟨x, y, by simp [Run.nil], hx, hy⟩

/-- **The run of one of two groups.** -/
theorem run_of_either_group (h : (either [.group 1 a, .group 2 b]).Extends .nil r) (ha : a.IsFlat)
    (hb : b.IsFlat) :
    ∃ x, (r = ⟨x, [], [⟨1, x, []⟩]⟩ ∧ a.Takes x) ∨ (r = ⟨x, [], [⟨2, x, []⟩]⟩ ∧ b.Takes x) := by
  rcases Expr.extends_alt.1 h with h | h
  · obtain ⟨x, hx, rfl⟩ := h.group ha rfl (by simp [Run.nil])
    exact ⟨x, .inl ⟨by simp [Run.nil], hx⟩⟩
  · obtain ⟨x, hx, rfl⟩ := h.group hb rfl (by simp [Run.nil])
    exact ⟨x, .inr ⟨by simp [Run.nil], hx⟩⟩

end Groups

/-! ### Rules -/

/-- A rule spells out its matches if its emitter spells out the runs of the expression. -/
theorem spells_custom
    (h : ∀ r, e.Extends .nil r → contents (emit r) = r.taken ∧ ∀ p ∈ emit r, p.IsSolid) :
    (⟨name, pattern source e, .custom emit⟩ : Rule).Spells := by
  intro prev t m hm _
  exact h m.run (Expr.extends_of_matchAt? hm)

/-- A rule keeps entities if its emitter makes escaped pieces of the runs of the expression. -/
theorem keepsEntities_custom (he : e.foreign)
    (h : ∀ v r, e.Extends .nil r → IsEscaped (r.taken ++ v) → ∀ p ∈ emit r, IsEscaped p.content) :
    (⟨name, pattern source e, .custom emit⟩ : Rule).KeepsEntities := by
  intro prev v m hm _
  have hext := Expr.extends_of_matchAt? hm
  exact ⟨hext.takes.foreign he, h v m.run hext⟩

/-- **A rule that wraps its matches keeps entities** if its expression passes both checks. -/
theorem keepsEntities_wrap {k : SpanClass} (he : e.foreign) (hs : e.settles) :
    (⟨name, pattern source e, .wrap k⟩ : Rule).KeepsEntities := by
  intro prev v m hm _
  have htakes := (Expr.extends_of_matchAt? hm).takes
  refine ⟨htakes.foreign he, fun hesc p hp => ?_⟩
  obtain rfl : p = .span k m.run.taken := by simpa [Emitter.emit] using hp
  exact (hesc.cut_of_settled (htakes.settled hs)).1

/-! ### Reading -/

/-- **A pattern that writes an expression** is read as this, if it is not too large. -/
theorem compile_of_writtenAs (h : WrittenAs source e) (hl : e.withinLimit) :
    Regex.compile source = .ok (pattern source e) := by
  have hread : Expr.read source.toList = .ok e := by
    have hparse : Expr.parse source.toList = .ok e := h
    rw [Expr.read, hparse]
    simp [hl, bind, Except.bind, pure, Except.pure]
  rw [Regex.compile, hread]
  rfl

end CodeMarkup.Language
