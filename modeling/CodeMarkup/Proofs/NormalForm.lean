import CodeMarkup.Proofs.Locality
import CodeMarkup.Proofs.Registry

/-!
# The normal form of a document

A document is in its normal form (`CodeMarkup.Piece.IsNormal`) if no text is empty and no two texts
are neighbours. A rule brings the pieces that it has made into this form, and emitters have no part
in it: they may give back empty texts, texts that meet others, or nothing at all for a match, so that
the texts on both sides of it meet (`CodeMarkup.Piece.isNormal_merge`).

So **every document that a rule has gone over is in its normal form**; only an empty text that
no rule looks at is not (`CodeMarkup.RuleSet.normalForm_apply`). That a span is not empty
is more than emitters in general are asked for. It holds of rules that wrap their matches, since an
empty match is no match for a rule, and of the three languages, since no group that makes a span
can be empty in a match of their patterns.
-/

namespace CodeMarkup

namespace Piece

/-- **The normal form**: no text is empty, and no two texts are neighbours. -/
structure IsNormal (ps : List Piece) : Prop where
  /-- A text has something in it. -/
  ne_nil : ∀ t, .text t ∈ ps → t ≠ []
  /-- Between two texts there is a span or markup. -/
  apart : Apart ps

/-- A piece before others makes no empty text of them. -/
theorem text_ne_nil_of_mem_cons {p : Piece} {ps : List Piece} (h : ∀ t, .text t ∈ ps → t ≠ []) :
    ∀ t, .text t ∈ cons p ps → t ≠ [] := by
  intro t ht
  cases p with
  | text u =>
    by_cases hu : u = []
    · subst hu
      exact h t ht
    · rcases cons_text u ps with ⟨-, hnil⟩ | ⟨v, qs, rfl, hcons⟩ | hcons
      · exact absurd hnil hu
      · rw [hcons] at ht
        rcases List.mem_cons.1 ht with heq | ht
        · cases heq
          exact fun hnil => hu (List.append_eq_nil_iff.1 hnil).1
        · exact h t (List.mem_cons_of_mem _ ht)
      · rw [hcons] at ht
        rcases List.mem_cons.1 ht with heq | ht
        · cases heq
          exact hu
        · exact h t ht
  | span | markup =>
    rcases List.mem_cons.1 ht with heq | ht
    · cases heq
    · exact h t ht

/-- **What is merged is in its normal form**, whatever the pieces are. -/
theorem isNormal_merge (ps : List Piece) : IsNormal (merge ps) where
  ne_nil := by
    induction ps with
    | nil => exact fun t ht => absurd ht List.not_mem_nil
    | cons p ps ih => exact text_ne_nil_of_mem_cons ih
  apart := apart_merge ps

theorem isNormal_text_iff {e : Text} : IsNormal [.text e] ↔ e ≠ [] := by
  constructor
  · exact fun h => h.ne_nil e List.mem_cons_self
  · intro he
    refine ⟨fun t ht => ?_, .singleton _⟩
    cases List.mem_singleton.1 ht
    exact he

/-- The normal form, piece by piece. -/
theorem isNormal_cons_iff {p : Piece} {ps : List Piece} :
    IsNormal (p :: ps) ↔
      (∀ t, p = .text t → t ≠ []) ∧ (∀ q ∈ ps.head?, ¬(p.IsText ∧ q.IsText)) ∧ IsNormal ps := by
  constructor
  · intro h
    obtain ⟨hnext, hps⟩ := List.isChain_cons.1 h.apart
    exact ⟨fun t ht => h.ne_nil t (ht ▸ List.mem_cons_self), hnext,
      fun t ht => h.ne_nil t (List.mem_cons_of_mem _ ht), hps⟩
  · rintro ⟨hp, hnext, hps⟩
    refine ⟨fun t ht => ?_, List.isChain_cons.2 ⟨hnext, hps.apart⟩⟩
    rcases List.mem_cons.1 ht with ht | ht
    · exact hp t ht.symm
    · exact hps.ne_nil t ht

/-- **Pieces in their normal form stay as they are.** -/
theorem IsNormal.merge_eq {ps : List Piece} (h : IsNormal ps) : merge ps = ps := by
  induction ps with
  | nil => rfl
  | cons p ps ih =>
    obtain ⟨hp, hnext, hps⟩ := isNormal_cons_iff.1 h
    change cons p (merge ps) = p :: ps
    rw [ih hps]
    cases p with
    | text t =>
      rcases cons_text t ps with ⟨-, ht⟩ | ⟨u, qs, rfl, -⟩ | hcons
      · exact absurd ht (hp t rfl)
      · exact absurd ⟨trivial, trivial⟩ (hnext (.text u) rfl)
      · exact hcons
    | span | markup => rfl

end Piece

open Piece

namespace RuleSet

/-- **Documents are in their normal form**, once a rule has gone over them, whatever the patterns and
the emitters are, or if the text is not empty to begin with. In a language that needs no
configuration, and where all rules wrap their matches, there are texts and spans that are
not empty, and no markup. -/
theorem normalForm_apply (set : RuleSet) (e : Text) :
    (IsNormal (set.apply e) ↔ set.rules ≠ [] ∨ e ≠ []) ∧
      (set.Ordinary → ∀ p ∈ set.apply e, p.IsSolid) := by
  refine ⟨?_, fun ho => solid_apply ho.spells e⟩
  obtain ⟨name, rules⟩ := set
  rcases List.eq_nil_or_concat rules with rfl | ⟨before, last, rfl⟩
  · have happly : apply ⟨name, []⟩ e = [.text e] := rfl
    rw [happly, isNormal_text_iff]
    simp
  · -- The last rule has brought the pieces into their normal form.
    refine iff_of_true ?_ (.inl (by simp))
    rw [List.concat_eq_append, apply_concat]
    exact isNormal_merge _

end RuleSet

end CodeMarkup
