import CodeMarkup.Proofs.Language.Document
import CodeMarkup.Proofs.Language.Script
import CodeMarkup.Proofs.Language.Style

/-!
# The languages that need no configuration

The fifteen rules of the three languages search text in which `amp`, `lt` and `gt` look
like any other word, and yet **none of them splits an entity**
(`CodeMarkup.Language.pieces_are_escaped`): whatever the text is, each piece that the
rules leave is itself an escaped text, and no two pieces meet inside of an entity.
-/

namespace CodeMarkup.Language

open Markup Piece

/-- The rule sets of the three languages. -/
def ruleSets : List RuleSet := [script, document, style]

/-- The rules of the three languages spell out their matches and keep entities. -/
theorem keepsEntities_of_mem_ruleSets {set : RuleSet} (h : set ∈ ruleSets) :
    set.KeepsEntities := by
  simp only [ruleSets, List.mem_cons, List.not_mem_nil, or_false] at h
  rcases h with rfl | rfl | rfl
  · exact keepsEntities_script
  · exact keepsEntities_document
  · exact keepsEntities_style

/-- **No rule of the three languages splits an entity.** Each piece is what escaping makes of
some text, so the entities in it are whole; no two pieces meet inside of an entity; and
no match of any of the rules, when its turn comes, begins or ends inside of one. -/
theorem pieces_are_escaped {set : RuleSet} (h : set ∈ ruleSets) (text : Text) :
    (∀ p ∈ set.apply (escape text),
        (∃ t, p.content = escape t) ∧ EntitiesWhole p.content) ∧
      (∀ ps qs, set.apply (escape text) = ps ++ qs → ¬InsideEntity (contents ps) (contents qs)) ∧
      ¬set.SplitsEntity (escape text) := by
  have hk := keepsEntities_of_mem_ruleSets h
  have he := isEscaped_escape text
  have hpieces := hk.isEscaped_apply he
  refine ⟨fun p hp => ?_, fun ps qs hps hin => ?_, hk.not_splitsEntity he⟩
  · exact ⟨isEscaped_iff_exists_escape.1 (hpieces p hp), (hpieces p hp).entitiesWhole⟩
  · rw [hps] at hpieces
    exact hin.not_isEscaped (isEscaped_contents fun p hp => hpieces p (List.mem_append_left qs hp))

/-- The words of an operator, in the script language. -/
theorem pieces_are_escaped_script :
    script ∈ ruleSets ∧
      ∀ p ∈ script.apply (escape "a && lt // &".toList),
        (∃ t, p.content = escape t) ∧ EntitiesWhole p.content :=
  have h : script ∈ ruleSets := List.mem_cons_self
  ⟨h, (pieces_are_escaped h _).1⟩

end CodeMarkup.Language
