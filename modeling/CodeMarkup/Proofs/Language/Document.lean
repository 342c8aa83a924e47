import CodeMarkup.Language.Document
import CodeMarkup.Proofs.Language.Patterns

/-!
# The rules of the document language

All four rules spell out their matches and keep entities
(`CodeMarkup.Language.keepsEntities_document`). Comments and strings are wrapped, and
their expressions pass the checks. The other two rules cut their matches up: a tag
behind the start with its entity (`CodeMarkup.Language.Document.run_tag`), an attribute
at its equals sign (`CodeMarkup.Language.Document.run_attribute`), which is written out
again by the emitter.
-/

namespace CodeMarkup.Language

open Regex Markup Piece

namespace Document

variable {r : Run}

/-! ### Tags -/

/-- **The run of a tag**: the start, which ends outside of entities, and the name. -/
theorem run_tag (h : tagExpr.Extends .nil r) :
    ∃ x y, r = ⟨x ++ y, [], [⟨1, x, y⟩, ⟨2, y, []⟩]⟩ ∧ Settled x ∧ y ≠ [] ∧ Settled y := by
  obtain ⟨x, y, hr, hx, hy⟩ := run_of_groups h (fun _ => ⟨rfl, rfl⟩) fun _ => ⟨rfl, rfl⟩
  exact ⟨x, y, hr, hx.settled (by rfl), hy.ne_nil (by rfl), hy.settled (by rfl)⟩

theorem emitTag_run (x y : Text) :
    emitTag ⟨x ++ y, [], [⟨1, x, y⟩, ⟨2, y, []⟩]⟩ = [.text x, .span .tag y] := rfl

theorem spells_tag : tagRule.Spells := by
  refine spells_custom fun r hr => ?_
  obtain ⟨x, y, rfl, -, hy, -⟩ := run_tag hr
  rw [emitTag_run]
  exact ⟨by simp [content], by simp [IsSolid, hy]⟩

theorem keepsEntities_tag : tagRule.KeepsEntities := by
  refine keepsEntities_custom (by rfl) fun v r hr he => ?_
  obtain ⟨x, y, rfl, hx, -, hy⟩ := run_tag hr
  rw [emitTag_run]
  simpa [content] using he.cut_of_settled_append hx hy

/-! ### Attributes -/

/-- **The run of an attribute**: the name, the equals sign, and the value if it has quotes. -/
theorem run_attribute (h : attributeExpr.Extends .nil r) :
    ∃ x, x ≠ [] ∧ Settled x ∧
      (r = ⟨x ++ ['='], [], [⟨1, x, ['=']⟩]⟩ ∨
        ∃ y, r = ⟨x ++ '=' :: y, [], [⟨1, x, '=' :: y⟩, ⟨2, y, []⟩]⟩ ∧ y ≠ [] ∧
          Settled ('=' :: y)) := by
  obtain ⟨s, hs, h₁⟩ := Expr.extends_cat.1 h
  obtain ⟨s', h₂, hsign⟩ := Expr.extends_cat.1 hs
  obtain ⟨z, hz, rfl⟩ := hsign.flat fun _ => ⟨rfl, rfl⟩
  obtain rfl := takes_char hz
  have hsettled : Settled ['='] := settled_of_not_mem (by decide)
  rcases h₂.optional with rfl | h₂
  · obtain ⟨x, hx, rfl⟩ := h₁.group (fun _ => ⟨rfl, rfl⟩) rfl (by simp [Run.nil])
    exact ⟨x, hx.ne_nil (by rfl), hx.settled (by rfl), .inl rfl⟩
  · obtain ⟨y, hy, rfl⟩ := h₂.group (fun _ => ⟨rfl, rfl⟩) rfl (by simp [Run.nil])
    obtain ⟨x, hx, rfl⟩ := h₁.group (fun _ => ⟨rfl, rfl⟩) rfl (by simp [Run.nil])
    refine ⟨x, hx.ne_nil (by rfl), hx.settled (by rfl), .inr ⟨y, by simp [Run.nil], ?_⟩⟩
    exact ⟨hy.ne_nil (by rfl), hsettled.append (hy.settled (by rfl))⟩

theorem emitAttribute_run (x : Text) :
    emitAttribute ⟨x ++ ['='], [], [⟨1, x, ['=']⟩]⟩ = [.span .property x, .text ['=']] := rfl

theorem emitAttribute_run_value (x y : Text) :
    emitAttribute ⟨x ++ '=' :: y, [], [⟨1, x, '=' :: y⟩, ⟨2, y, []⟩]⟩ =
      [.span .property x, .text ['='], .span .string y] := rfl

theorem spells_attribute : attributeRule.Spells := by
  refine spells_custom fun r hr => ?_
  obtain ⟨x, hx, -, rfl | ⟨y, rfl, hy, -⟩⟩ := run_attribute hr
  · rw [emitAttribute_run]
    exact ⟨by simp [content], by simp [IsSolid, hx]⟩
  · rw [emitAttribute_run_value]
    exact ⟨by simp [content], by simp [IsSolid, hx, hy]⟩

theorem keepsEntities_attribute : attributeRule.KeepsEntities := by
  have hsign : IsEscaped ['='] := .plain rfl .nil
  refine keepsEntities_custom (by rfl) fun v r hr he => ?_
  obtain ⟨x, -, hx, rfl | ⟨y, rfl, -, hy⟩⟩ := run_attribute hr
  · rw [emitAttribute_run]
    obtain ⟨hx, -⟩ := he.cut_of_settled_append hx (settled_of_not_mem (by decide))
    simpa [content] using ⟨hx, hsign⟩
  · rw [emitAttribute_run_value]
    obtain ⟨hx, hy⟩ := he.cut_of_settled_append hx hy
    simpa [content] using ⟨hx, hsign, hy.of_cons rfl⟩

end Document

open Document in
/-- **The rules of the document language spell out their matches and keep entities.** -/
theorem keepsEntities_document : document.KeepsEntities := by
  intro rule hrule
  simp only [document, List.mem_cons, List.not_mem_nil, or_false] at hrule
  rcases hrule with rfl | rfl | rfl | rfl
  · exact ⟨Rule.spells_wrap rfl, keepsEntities_wrap (by rfl) (by rfl)⟩
  · exact ⟨spells_tag, keepsEntities_tag⟩
  · exact ⟨spells_attribute, keepsEntities_attribute⟩
  · exact ⟨Rule.spells_wrap rfl, keepsEntities_wrap (by rfl) (by rfl)⟩

end CodeMarkup.Language
