import CodeMarkup.Proofs.Passes
import Mathlib.Data.List.Chain

/-!
# Texts on their own

A rule goes over a whole document, and yet **each text is worked on as if it were a document of
its own** (`CodeMarkup.RuleSet.apply_append_eq_flatMap`): what the rules still to come make of the
pieces so far is, piece by piece, what they make of each text, and the piece itself where it
is sealed. So a span that has been made is not searched, changed, moved or dropped any more.

What could tie neighbouring texts together is that pieces are brought into their normal form
after each rule, which makes neighbouring texts one. But no two texts are neighbours to begin
with (`CodeMarkup.Piece.Apart`), and a rule leaves none that are, whatever its emitter returns
(`CodeMarkup.Piece.apart_merge`); so between any two texts a sealed piece stands, and
nothing grows together across it. And what an emitter is told of a match, its place and the text
around it, is of the one text that is searched (`CodeMarkup.Regex.Match`), so it does not tell texts
of a document from documents.
-/

namespace CodeMarkup

namespace Piece

/-- That no two texts are neighbours. -/
def Apart (ps : List Piece) : Prop := ps.IsChain fun p q => ¬(p.IsText ∧ q.IsText)

theorem apart_cons {p : Piece} {ps : List Piece} (h : Apart ps) : Apart (cons p ps) := by
  cases p with
  | text t =>
    cases t with
    | nil => exact h
    | cons c t =>
      rcases ps with _ | ⟨_ | _ | _, qs⟩
      · exact .singleton _
      · -- The text that is met grows, and stays a text.
        refine List.isChain_cons.2 ⟨fun q hq => ?_, (List.isChain_cons.1 h).2⟩
        exact fun hqt => (List.isChain_cons.1 h).1 q hq ⟨trivial, hqt.2⟩
      · exact .cons_cons (fun hq => hq.2) h
      · exact .cons_cons (fun hq => hq.2) h
  | span | markup => exact List.isChain_cons.2 ⟨fun _ _ hp => hp.1, h⟩

/-- **In the normal form no two texts are neighbours.** -/
theorem apart_merge (ps : List Piece) : Apart (merge ps) := by
  induction ps with
  | nil => exact .nil
  | cons p ps ih => exact apart_cons ih

/-- What is made of pieces one by one, if sealed pieces stay, is brought into its normal form one
by one as well. -/
theorem merge_flatMap {f : Piece → List Piece} (hf : ∀ p, ¬p.IsText → f p = [p])
    {ps : List Piece} (h : Apart ps) : merge (ps.flatMap f) = ps.flatMap fun p => merge (f p) := by
  have hsealed : ∀ {p : Piece} (qs : List Piece), ¬p.IsText → merge (p :: qs) = p :: merge qs :=
    fun qs hp => cons_of_not_isText hp (merge qs)
  induction ps with
  | nil => rfl
  | cons p ps ih =>
    obtain ⟨hnext, hps⟩ := List.isChain_cons.1 h
    rw [List.flatMap_cons, List.flatMap_cons, ← ih hps]
    by_cases hp : p.IsText
    · -- Behind a text there is nothing, or a sealed piece.
      cases ps with
      | nil => simp [merge]
      | cons q ps =>
        have hq : ¬q.IsText := fun hq => hnext q rfl ⟨hp, hq⟩
        rw [List.flatMap_cons, hf q hq, List.singleton_append, merge_append_cons hq, hsealed _ hq]
    · rw [hf p hp, List.singleton_append, hsealed _ hp, hsealed _ hp]
      rfl

end Piece

open Piece

namespace Rule

variable {rule : Rule} {ps : List Piece}

theorem onPiece_of_not_isText {p : Piece} (hp : ¬p.IsText) : rule.onPiece p = [p] := by
  cases p with
  | text => exact absurd trivial hp
  | span | markup => rfl

theorem apart_onPieces (ps : List Piece) : Apart (rule.onPieces ps) := apart_merge _

/-- **One rule works on each piece on its own.** -/
theorem onPieces_eq_flatMap (h : Apart ps) :
    rule.onPieces ps = ps.flatMap fun p => rule.onPieces [p] := by
  rw [onPieces, merge_flatMap (fun p => onPiece_of_not_isText) h]
  simp [onPieces]

theorem onPieces_singleton {p : Piece} (hp : ¬p.IsText) : rule.onPieces [p] = [p] := by
  rw [onPieces, List.flatMap_singleton, onPiece_of_not_isText hp]
  exact cons_of_not_isText hp []

/-- A text after the rule comes from one text before it. -/
theorem exists_of_text_mem_onPieces (h : Apart ps) {u : Text} (hu : .text u ∈ rule.onPieces ps) :
    ∃ t, .text t ∈ ps ∧ .text u ∈ merge (rule.onText t) := by
  rw [onPieces_eq_flatMap h] at hu
  obtain ⟨p, hp, hu⟩ := List.mem_flatMap.1 hu
  by_cases hpt : p.IsText
  · cases p with
    | text t =>
      rw [onPieces, List.flatMap_singleton] at hu
      exact ⟨t, hp, hu⟩
    | span | markup => exact hpt.elim
  · rw [onPieces_singleton hpt, List.mem_singleton] at hu
    subst hu
    exact absurd trivial hpt

end Rule

namespace RuleSet

/-- What the rules make of one piece of a document: a text is a document of its own, and what is
sealed stays. -/
def onPiece (set : RuleSet) : Piece → List Piece
  | .text t => set.apply t
  | p => [p]

theorem onPiece_of_not_isText {set : RuleSet} {p : Piece} (hp : ¬p.IsText) :
    set.onPiece p = [p] := by
  cases p with
  | text => exact absurd trivial hp
  | span | markup => rfl

/-- No two texts are neighbours after any number of rules. -/
theorem apart_apply (set : RuleSet) (e : Text) : Apart (set.apply e) :=
  apply_induction (.singleton _) fun rule _ ps _ => rule.apart_onPieces ps

/-- **Rules work on each piece on its own.** -/
theorem foldl_onPieces_eq_flatMap (name : String) (rules : List Rule) {ps : List Piece}
    (h : Apart ps) :
    rules.foldl (fun ps rule => rule.onPieces ps) ps = ps.flatMap (onPiece ⟨name, rules⟩) := by
  induction rules generalizing ps with
  | nil =>
    have hone : onPiece ⟨name, []⟩ = fun p => [p] := by
      funext p
      cases p <;> rfl
    rw [hone, List.flatMap_singleton', List.foldl_nil]
  | cons rule rules ih =>
    rw [List.foldl_cons, ih (rule.apart_onPieces ps), Rule.onPieces_eq_flatMap h,
      List.flatMap_assoc]
    refine List.flatMap_congr fun p _ => ?_
    by_cases hp : p.IsText
    · cases p with
      | text t => exact (ih (rule.apart_onPieces [.text t])).symm
      | span | markup => exact hp.elim
    · rw [Rule.onPieces_singleton hp, List.flatMap_singleton, onPiece_of_not_isText hp,
        onPiece_of_not_isText hp]

/-- **Sealing and locality.** The rules of two sets, one set after the other, make of a text what
the first set makes of it, with each sealed piece as it is and each text replaced by what the
second set makes of it as a document of its own. -/
theorem apply_append_eq_flatMap (first second : RuleSet) (t : Text) :
    apply ⟨first.name, first.rules ++ second.rules⟩ t =
      (first.apply t).flatMap second.onPiece := by
  rw [apply, List.foldl_append]
  exact foldl_onPieces_eq_flatMap second.name second.rules (first.apart_apply t)

end RuleSet

end CodeMarkup
