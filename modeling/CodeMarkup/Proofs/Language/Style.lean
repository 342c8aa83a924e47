import CodeMarkup.Language.Style
import CodeMarkup.Proofs.Language.Patterns

/-!
# The rules of the style language

All four rules spell out their matches and keep entities
(`CodeMarkup.Language.keepsEntities_style`). The rules for properties and for colours
match strings too, and of a string they make one piece of text, so a string is as good
for them as it is for the rule that wraps it.
-/

namespace CodeMarkup.Language

open Regex Markup Piece

namespace Style

variable {r : Run}

/-! ### Properties -/

/-- **The run of a property**: a string, or a name and a colon. -/
theorem run_property (h : propertyExpr.Extends .nil r) :
    (∃ x, r = ⟨x, [], [⟨1, x, []⟩]⟩ ∧ Settled x) ∨
      ∃ x, r = ⟨x ++ [':'], [], [⟨2, x, [':']⟩]⟩ ∧ x ≠ [] ∧ Settled x := by
  rcases Expr.extends_alt.1 h with h | h
  · obtain ⟨x, hx, rfl⟩ := h.group (fun _ => ⟨rfl, rfl⟩) rfl (by simp [Run.nil])
    exact .inl ⟨x, by simp [Run.nil], hx.settled (by rfl)⟩
  · obtain ⟨s, hsign, h₂⟩ := Expr.extends_cat.1 h
    obtain ⟨z, hz, rfl⟩ := hsign.flat fun _ => ⟨rfl, rfl⟩
    obtain rfl := takes_char hz
    obtain ⟨x, hx, rfl⟩ := h₂.group (fun _ => ⟨rfl, rfl⟩) rfl (by simp [Run.nil])
    exact .inr ⟨x, rfl, hx.ne_nil (by rfl), hx.settled (by rfl)⟩

theorem emitProperty_run_string (x : Text) : emitProperty ⟨x, [], [⟨1, x, []⟩]⟩ = [.text x] := rfl

theorem emitProperty_run (x : Text) :
    emitProperty ⟨x ++ [':'], [], [⟨2, x, [':']⟩]⟩ = [.span .property x, .text [':']] := rfl

theorem spells_property : propertyRule.Spells := by
  refine spells_custom fun r hr => ?_
  rcases run_property hr with ⟨x, rfl, -⟩ | ⟨x, rfl, hx, -⟩
  · rw [emitProperty_run_string]
    exact ⟨by simp [content], by simp [IsSolid]⟩
  · rw [emitProperty_run]
    exact ⟨by simp [content], by simp [IsSolid, hx]⟩

theorem keepsEntities_property : propertyRule.KeepsEntities := by
  have hsign : IsEscaped [':'] := .plain rfl .nil
  refine keepsEntities_custom (by rfl) fun v r hr he => ?_
  rcases run_property hr with ⟨x, rfl, hx⟩ | ⟨x, rfl, -, hx⟩
  · rw [emitProperty_run_string]
    simpa [content] using (IsEscaped.cut_of_settled he hx).1
  · rw [emitProperty_run]
    obtain ⟨hx, -⟩ := he.cut_of_settled_append hx (settled_of_not_mem (by decide))
    simpa [content] using ⟨hx, hsign⟩

/-! ### Colours -/

/-- **The run of a colour**: a string, or the colour. -/
theorem run_color (h : colorExpr.Extends .nil r) :
    ∃ x, x ≠ [] ∧ Settled x ∧ (r = ⟨x, [], [⟨1, x, []⟩]⟩ ∨ r = ⟨x, [], [⟨2, x, []⟩]⟩) := by
  obtain ⟨x, ⟨hr, hx⟩ | ⟨hr, hx⟩⟩ :=
    run_of_either_group h (fun _ => ⟨rfl, rfl⟩) fun _ => ⟨rfl, rfl⟩
  · exact ⟨x, hx.ne_nil (by rfl), hx.settled (by rfl), .inl hr⟩
  · exact ⟨x, hx.ne_nil (by rfl), hx.settled (by rfl), .inr hr⟩

/-- What is made of a match is one piece that holds it. -/
theorem emitColor_run {x : Text} (h : r = ⟨x, [], [⟨1, x, []⟩]⟩ ∨ r = ⟨x, [], [⟨2, x, []⟩]⟩) :
    emitColor r = [.text x] ∨ emitColor r = [.span .number x] := by
  rcases h with rfl | rfl
  · exact .inl rfl
  · exact .inr rfl

theorem spells_color : colorRule.Spells := by
  refine spells_custom fun r hr => ?_
  obtain ⟨x, hx, -, hrun⟩ := run_color hr
  have htaken : r.taken = x := by rcases hrun with rfl | rfl <;> rfl
  rcases emitColor_run hrun with he | he <;> rw [he, htaken]
  · exact ⟨by simp [content], by simp [IsSolid]⟩
  · exact ⟨by simp [content], by simp [IsSolid, hx]⟩

theorem keepsEntities_color : colorRule.KeepsEntities := by
  refine keepsEntities_custom (by rfl) fun v r hr he => ?_
  obtain ⟨x, -, hx, hrun⟩ := run_color hr
  have htaken : r.taken = x := by rcases hrun with rfl | rfl <;> rfl
  rw [htaken] at he
  obtain ⟨hx, -⟩ := he.cut_of_settled hx
  rcases emitColor_run hrun with he | he <;> rw [he]
  · simpa [content] using hx
  · simpa [content] using hx

end Style

open Style in
/-- **The rules of the style language spell out their matches and keep entities.** -/
theorem keepsEntities_style : style.KeepsEntities := by
  intro rule hrule
  simp only [style, List.mem_cons, List.not_mem_nil, or_false] at hrule
  rcases hrule with rfl | rfl | rfl | rfl
  · exact ⟨Rule.spells_wrap rfl, keepsEntities_wrap (by rfl) (by rfl)⟩
  · exact ⟨spells_property, keepsEntities_property⟩
  · exact ⟨spells_color, keepsEntities_color⟩
  · exact ⟨Rule.spells_wrap rfl, keepsEntities_wrap (by rfl) (by rfl)⟩

end CodeMarkup.Language
