import CodeMarkup.Proofs.Highlighter
import CodeMarkup.Proofs.Markup.Unwrapping

/-!
# Languages that need no collapsing

Collapsing goes over the markup of a whole document, in which tags stand between texts of
any kind, and tells what it looks for by characters alone. Where all pieces are texts and spans there
is nothing for it to find, at no place and whatever the texts and the prefix of the classes are
(`CodeMarkup.Piece.not_occursIn_renderAll`): a match begins with two opening tags in a row, an
opening tag begins with an angle bracket, and escaped texts have none, so behind the opening tag of
a span there is its text, or its closing tag.

So it does not matter whether collapsing is asked for, in the three languages and in all languages
whose rules wrap their matches (`CodeMarkup.Highlighter.collapsing_is_needless`). It is for
emitters that write markup.
-/

namespace CodeMarkup

open Markup Piece

/-- **Nothing wraps a span** in the markup of texts and spans: the pattern of nested spans does not
occur in it. -/
theorem Piece.not_occursIn_renderAll {classPrefix : Text} (hP : IsPrefix classPrefix)
    {ps : List Piece} (hps : ∀ p ∈ ps, p.IsPlain) (hc : ∀ p ∈ ps, '<' ∉ p.content) :
    ¬nestedExpr.OccursIn (renderAll classPrefix ps) :=
  collapseOnce_eq_self_iff.1 (collapseOnce_renderAll hP hps hc)

/-- The settings, with or without collapsing. -/
def Settings.collapsing (s : Settings) (b : Bool) : Settings := { s with collapse := b }

/-- Settings are sound whether or not collapsing is asked for. -/
theorem Settings.validate_collapsing (s : Settings) (b : Bool) :
    (s.collapsing b).validate = s.validate := rfl

namespace Highlighter

variable {settings : Settings}

/-- In the markup of a document in an ordinary language nothing wraps a span. -/
theorem not_occursIn_markup (hP : IsPrefix settings.classPrefix.toList) {set : RuleSet}
    (hs : set.Spells) (text : Text) :
    ¬nestedExpr.OccursIn
      (renderAll settings.classPrefix.toList (set.apply (escape text))) := by
  refine not_occursIn_renderAll hP ?_ ?_
  · exact fun p hp => (RuleSet.solid_apply hs _ p hp).isPlain
  · exact fun p hp hc => (hs.ne_angle hp hc).1 rfl

/-- The markup of a document does not depend on whether collapsing is asked for. -/
theorem render_collapsing (hP : IsPrefix settings.classPrefix.toList) {set : RuleSet}
    (hs : set.Spells) (b : Bool) (text : Text) :
    render (settings.collapsing b) set text =
      renderAll settings.classPrefix.toList (set.apply (escape text)) := by
  have hP' : IsPrefix (settings.collapsing b).classPrefix.toList := hP
  exact render_eq hP' hs text

/-- **Collapsing is needless** in the three languages, and where all rules wrap their matches. Let
settings be sound. Then the pattern of nested spans does not occur in the markup of any text, and
collapsing changes nothing; and two highlighters which differ in this setting only, and which
both are sound, give back the same markup, whatever has been called before. -/
theorem collapsing_is_needless (hs : settings.validate = .ok ()) :
    (∀ set : RuleSet, set.Ordinary → ∀ text,
      ¬nestedExpr.OccursIn
          (renderAll settings.classPrefix.toList (set.apply (escape text))) ∧
        collapse (renderAll settings.classPrefix.toList (set.apply (escape text))) =
          renderAll settings.classPrefix.toList (set.apply (escape text))) ∧
      (∀ b, (settings.collapsing b).validate = .ok ()) ∧
      ∀ (registry : Registry) (language : String),
        (∀ slot set, registry.resolve? language = some (slot, set) → set.Ordinary) →
          ∀ (digest digest' : Nat → Text → UInt64) (calls calls' : List Call) (text : Text),
            (((assemble digest (settings.collapsing true) registry).run calls).highlight text
              language).1 =
            (((assemble digest' (settings.collapsing false) registry).run calls').highlight text
              language).1 := by
  have hP : IsPrefix settings.classPrefix.toList := fun c hc =>
    Settings.isPrefixChar_of_validate hs hc
  refine ⟨fun set ho text => ?_, fun b => (settings.validate_collapsing b).trans hs, ?_⟩
  · have hnone := not_occursIn_markup hP ho.spells text
    exact ⟨hnone, collapse_eq_self (collapseOnce_eq_self_iff.2 hnone)⟩
  · intro registry language hset digest digest' calls calls' text
    rw [(coherent_assemble digest _ registry).fst_highlight_run,
      (coherent_assemble digest' _ registry).fst_highlight_run]
    -- The rule set that applies does not depend on the setting.
    have happlied : (assemble digest' (settings.collapsing false) registry).applied? text language =
        (assemble digest (settings.collapsing true) registry).applied? text language := rfl
    rw [happlied]
    cases ha : (assemble digest (settings.collapsing true) registry).applied? text language with
    | none => rfl
    | some set =>
      obtain ⟨slot, hr⟩ := exists_rules?_of_applied? ha
      have ho : set.Ordinary := hset slot set (Option.filter_eq_some_iff.1 hr).1
      exact (render_collapsing hP ho.spells true text).trans
        (render_collapsing hP ho.spells false text).symm

/-- A string that holds the tags of a span around a span, in the script language. -/
theorem collapsing_is_needless_tags :
    Settings.default.validate = .ok () ∧ Language.script ∈ Language.ruleSets ∧
      (((assemble Cache.contentDigest (Settings.default.collapsing true) .builtin).run []).highlight
          "\"<span class=\"a\"><span class=\"b\">\"".toList "js").1 =
        (((assemble Cache.contentDigest (Settings.default.collapsing false) .builtin).run
          [.forget]).highlight "\"<span class=\"a\"><span class=\"b\">\"".toList "js").1 :=
  have hs : Settings.default.validate = .ok () := by decide
  ⟨hs, List.mem_cons_self,
    (collapsing_is_needless hs).2.2 .builtin "js"
      (fun _ _ hr => Registry.ordinary_builtin.of_resolve? hr) _ _ _ _ _⟩

end Highlighter

end CodeMarkup
