import CodeMarkup.Proofs.Regex.Ends
import CodeMarkup.Proofs.Spans

/-!
# The neighbours of spans

A rule may wrap a part of its match only, and give the rest of it back as text. What is next to such
a span is text again: it becomes one with the text that it meets, and all later rules search it. So
what stands next to a span in the end (`CodeMarkup.Piece.Flanked`) is a matter of all the rules.

**There are three steps to it** (`CodeMarkup.RuleSet.flanked_apply`). The rules before make no span
of the class; the rule itself puts on both sides of the span what should be there
(`CodeMarkup.Rule.Flanks`); and the rules behind it keep this up. Since the span is sealed, these
work on what is before it and on what is behind it, each on its own.

What they keep up is the text right at the span. Behind a span it stays if its characters begin no
match (`CodeMarkup.RuleSet.opensWith_flatMap`), and before a span it stays if they end none
(`CodeMarkup.RuleSet.closesWith_flatMap`).
-/

namespace CodeMarkup

open Regex

namespace Piece

/-- That what is before and behind each span of a class is as `G` says. -/
def Flanked (k : SpanClass) (G : List Piece → List Piece → Prop) (ps : List Piece) : Prop :=
  ∀ before t behind, ps = before ++ .span k t :: behind → G before behind

/-- That a document begins with a text that begins with `s`. -/
def OpensWith (s : Text) (ps : List Piece) : Prop := ∃ u qs, ps = .text (s ++ u) :: qs

/-- That a document ends with a text that ends with `s`. -/
def ClosesWith (s : Text) (ps : List Piece) : Prop := ∃ qs u, ps = qs ++ [.text (u ++ s)]

variable {k : SpanClass} {G : List Piece → List Piece → Prop} {p : Piece} {ps qs : List Piece}
  {s t : Text}

/-! ### The places of sealed pieces -/

theorem flanked_nil : Flanked k G [] := by
  intro before t behind h
  simp at h

theorem flanked_cons :
    Flanked k G (p :: ps) ↔
      (∀ t, p = .span k t → G [] ps) ∧ Flanked k (fun before => G (p :: before)) ps := by
  constructor
  · intro h
    refine ⟨?_, ?_⟩
    · rintro t rfl
      exact h [] t ps rfl
    · rintro before t behind rfl
      exact h (p :: before) t behind rfl
  · rintro ⟨hp, hps⟩ before t behind h
    rcases List.cons_eq_append_iff.1 h with ⟨rfl, hspan⟩ | ⟨before, rfl, rfl⟩
    · obtain ⟨rfl, rfl⟩ := List.cons.inj hspan
      exact hp t rfl
    · exact hps before t behind rfl

/-- **A piece of what is made of a list** is made of one of its members, and what stands around it
is made of the others. -/
theorem exists_of_flatMap_eq {α : Type} {f : α → List Piece} {as : List α}
    {before behind : List Piece} (h : as.flatMap f = before ++ p :: behind) :
    ∃ as₁ a as₂ x y, as = as₁ ++ a :: as₂ ∧ f a = x ++ p :: y ∧ before = as₁.flatMap f ++ x ∧
      behind = y ++ as₂.flatMap f := by
  induction as generalizing before with
  | nil => simp at h
  | cons a as ih =>
    rw [List.flatMap_cons] at h
    rcases List.append_eq_append_iff.1 h with ⟨z, rfl, hz⟩ | ⟨z, ha, hz⟩
    · obtain ⟨as₁, b, as₂, x, y, rfl, hb, rfl, rfl⟩ := ih hz
      exact ⟨a :: as₁, b, as₂, x, y, rfl, hb, by simp, rfl⟩
    · rcases List.cons_eq_append_iff.1 hz with ⟨rfl, hz⟩ | ⟨z, rfl, rfl⟩
      · obtain ⟨as₁, b, as₂, x, y, rfl, hb, hx, rfl⟩ := @ih [] hz.symm
        rw [List.append_nil] at ha
        exact ⟨a :: as₁, b, as₂, x, y, rfl, hb, by simp [ha, ← hx], rfl⟩
      · exact ⟨[], a, as, before, z, rfl, ha, rfl, rfl⟩

/-- What is a piece alone has nothing around it. -/
theorem eq_of_singleton_eq {q : Piece} {before behind : List Piece}
    (h : [q] = before ++ p :: behind) : before = [] ∧ q = p ∧ behind = [] := by
  rcases List.cons_eq_append_iff.1 h with ⟨rfl, hq⟩ | ⟨before', -, hnil⟩
  · obtain ⟨rfl, rfl⟩ := List.cons.inj hq
    exact ⟨rfl, rfl, rfl⟩
  · simp at hnil

/-- A sealed piece behind one that is put in front is this one, or it was there before. -/
theorem exists_of_cons_eq (hp : ¬p.IsText) {q : Piece} {before behind : List Piece}
    (h : cons q qs = before ++ p :: behind) :
    (q = p ∧ before = [] ∧ qs = behind) ∨
      ∃ before', qs = before' ++ p :: behind ∧ before = cons q before' := by
  -- What begins with a text has the sealed piece behind it.
  have htext : ∀ {t rest}, .text t :: rest = before ++ p :: behind →
      ∃ before', before = .text t :: before' ∧ rest = before' ++ p :: behind := by
    intro t rest ht
    rcases List.cons_eq_append_iff.1 ht with ⟨-, hpt⟩ | ⟨before', hbefore, hrest⟩
    · rw [(List.cons.inj hpt).1] at hp
      exact absurd trivial hp
    · exact ⟨before', hbefore, hrest⟩
  cases q with
  | text t =>
    cases t with
    | nil => exact .inr ⟨before, h, rfl⟩
    | cons c t =>
      rcases qs with _ | ⟨u | _ | _, qs⟩
      · obtain ⟨before', -, hrest⟩ := htext h
        simp at hrest
      · obtain ⟨before', rfl, rfl⟩ := htext h
        exact .inr ⟨.text u :: before', rfl, rfl⟩
      all_goals
        obtain ⟨before', rfl, hrest⟩ := htext h
        refine .inr ⟨before', hrest, ?_⟩
        rcases List.cons_eq_append_iff.1 hrest with ⟨rfl, -⟩ | ⟨_, rfl, -⟩ <;> rfl
  | span | markup =>
    rcases List.cons_eq_append_iff.1 h with ⟨rfl, hq⟩ | ⟨before', rfl, hqs⟩
    · obtain ⟨rfl, rfl⟩ := List.cons.inj hq
      exact .inl ⟨rfl, rfl, rfl⟩
    · exact .inr ⟨before', hqs, rfl⟩

/-- **A sealed piece of the normal form** is one of the pieces, and what stands around it is brought
into the normal form on its own. -/
theorem exists_of_merge_eq (hp : ¬p.IsText) {before behind : List Piece}
    (h : merge ps = before ++ p :: behind) :
    ∃ ps₁ ps₂, ps = ps₁ ++ p :: ps₂ ∧ before = merge ps₁ ∧ behind = merge ps₂ := by
  induction ps generalizing before with
  | nil => simp [merge] at h
  | cons q ps ih =>
    rcases exists_of_cons_eq hp h with ⟨rfl, rfl, rfl⟩ | ⟨before', hps, rfl⟩
    · exact ⟨[], ps, rfl, rfl, rfl⟩
    · obtain ⟨ps₁, ps₂, rfl, rfl, rfl⟩ := ih hps
      exact ⟨q :: ps₁, ps₂, rfl, rfl, rfl⟩

/-! ### The texts at the two ends -/

theorem cons_text_append (t u : Text) (ps : List Piece) :
    cons (.text (t ++ u)) ps = cons (.text t) (cons (.text u) ps) := by
  cases t with
  | nil => rfl
  | cons c t =>
    cases u with
    | nil => rw [List.append_nil]; rfl
    | cons d u => rcases ps with _ | ⟨_ | _ | _, ps⟩ <;> simp [cons]

/-- A text before others is how the document begins, if it is not empty. -/
theorem opensWith_cons (hs : s ≠ []) (ps : List Piece) : OpensWith s (cons (.text s) ps) := by
  rcases cons_text s ps with ⟨-, hnil⟩ | ⟨u, qs, -, h⟩ | h
  · exact absurd hnil hs
  · exact ⟨u, qs, h⟩
  · exact ⟨[], ps, by rw [h, List.append_nil]⟩

theorem OpensWith.append (h : OpensWith s ps) (qs : List Piece) : OpensWith s (ps ++ qs) := by
  obtain ⟨u, ps, rfl⟩ := h
  exact ⟨u, ps ++ qs, rfl⟩

theorem ClosesWith.append (h : ClosesWith s ps) (qs : List Piece) : ClosesWith s (qs ++ ps) := by
  obtain ⟨ps, u, rfl⟩ := h
  exact ⟨qs ++ ps, u, (List.append_assoc ..).symm⟩

theorem ClosesWith.cons (h : ClosesWith s ps) (p : Piece) : ClosesWith s (cons p ps) := by
  obtain ⟨qs, u, rfl⟩ := h
  cases p with
  | text t =>
    rcases cons_text t (qs ++ [.text (u ++ s)]) with ⟨h, -⟩ | ⟨v, rs, hqs, h⟩ | h
    · exact ⟨qs, u, h⟩
    · -- The text that is met may be the last one.
      rcases List.append_eq_cons_iff.1 hqs with ⟨rfl, hlast⟩ | ⟨qs', rfl, rfl⟩
      · obtain ⟨hv, rfl⟩ := List.cons.inj hlast
        rw [← Piece.text.inj hv] at h
        exact ⟨[], t ++ u, by rw [h, List.append_assoc, List.nil_append]⟩
      · exact ⟨.text (t ++ v) :: qs', u, h⟩
    · exact ⟨.text t :: qs, u, h⟩
  | span | markup => exact ⟨_ :: qs, u, rfl⟩

/-- A text behind others is how the document ends, if it is not empty. -/
theorem closesWith_merge (hs : s ≠ []) (ps : List Piece) :
    ClosesWith s (merge (ps ++ [.text s])) := by
  induction ps with
  | nil =>
    obtain ⟨c, t, rfl⟩ := List.exists_cons_of_ne_nil hs
    exact ⟨[], [], rfl⟩
  | cons p ps ih => exact ih.cons p

end Piece

open Piece

namespace Rule

variable {rule : Rule} {k : SpanClass} {G : List Piece → List Piece → Prop} {ps : List Piece}
  {s t : Text}

/-! ### The rule that makes the spans -/

/-- That a rule makes spans of a class with what is before and behind them as `G` says, whatever
stands around the match. -/
def Flanks (rule : Rule) (k : SpanClass) (G : List Piece → List Piece → Prop) : Prop :=
  ∀ prev t (m : Match), rule.pattern.body.matchAt? prev t = some m.run → m.run.taken ≠ [] →
    Flanked k (fun a b => ∀ before behind, G (merge (before ++ a)) (merge (b ++ behind)))
      (rule.emitter.emit m)

/-- **What a rule puts next to its spans stands there** in a document that had no spans of the
class. -/
theorem Flanks.onPieces (h : rule.Flanks k G) (hps : ∀ t, .span k t ∉ ps) :
    Flanked k G (rule.onPieces ps) := by
  intro before t behind heq
  have hsealed : ¬(Piece.span k t).IsText := fun h => h
  obtain ⟨before, behind, hflat, rfl, rfl⟩ := exists_of_merge_eq hsealed heq
  obtain ⟨ps₁, p, ps₂, x, y, rfl, hp, rfl, rfl⟩ := exists_of_flatMap_eq hflat
  cases p with
  | text u =>
    obtain ⟨ss₁, ⟨n, s⟩, ss₂, a, b, hss, hs, rfl, rfl⟩ := exists_of_flatMap_eq hp
    cases s with
    | gap g => simp [onSegment, List.singleton_eq_append_iff] at hs
    | hit r =>
      have hmem : .hit r ∈ rule.pattern.segments u :=
        Segment.mem_of_mem_placed (k := n) (by rw [hss]; simp)
      obtain ⟨hr, prev, t', hf⟩ := (cuts_segments rule.pattern u).exists_matchAt?_of_mem hmem
      have hG := h prev t' ⟨u, n, r⟩ hf hr a t b hs
      rw [← List.append_assoc, List.append_assoc b]
      exact hG _ _
  | span | markup =>
    obtain ⟨-, hspan, -⟩ := eq_of_singleton_eq hp
    rw [hspan] at hps
    exact absurd (by simp) (hps t)

/-! ### The rules behind it -/

/-- That no match of a rule begins with a character of `s`. -/
def BeginsOutside (rule : Rule) (s : Text) : Prop :=
  ∃ e : Expr, rule.pattern.body = e.toMarked ∧ ∀ c ∈ s, e.begins c = false

/-- That no match of a rule ends with a character of `s`. -/
def EndsOutside (rule : Rule) (s : Text) : Prop :=
  ∃ e : Expr, rule.pattern.body = e.toMarked ∧ ∀ c ∈ s, e.ends c = false

theorem beginsOutside_of_all {e : Expr} (he : rule.pattern.body = e.toMarked)
    (h : s.all fun c => !e.begins c) : rule.BeginsOutside s :=
  ⟨e, he, fun c hc => by simpa using List.all_eq_true.1 h c hc⟩

theorem endsOutside_of_all {e : Expr} (he : rule.pattern.body = e.toMarked)
    (h : s.all fun c => !e.ends c) : rule.EndsOutside s :=
  ⟨e, he, fun c hc => by simpa using List.all_eq_true.1 h c hc⟩

/-- A character in a gap stands as a text before what is made of the segments behind it. -/
theorem merge_onSegments_consGap (t : Text) (n : Nat) (c : Char) (ss : List Segment)
    (ps : List Piece) :
    merge (rule.onSegments t n (Segment.consGap c ss) ++ ps) =
      cons (.text [c]) (merge (rule.onSegments t (n + 1) ss ++ ps)) := by
  rcases rule.onSegments_consGap t n c ss with ⟨u, qs, hss, hgap⟩ | hgap
  · rw [hss, hgap]
    exact cons_text_append [c] u _
  · rw [hgap]
    rfl

theorem merge_onSegments_foldr_consGap (t : Text) (n : Nat) (s : Text) (ss : List Segment)
    (ps : List Piece) :
    merge (rule.onSegments t n (s.foldr Segment.consGap ss) ++ ps) =
      cons (.text s) (merge (rule.onSegments t (n + s.length) ss ++ ps)) := by
  induction s generalizing n with
  | nil => rfl
  | cons c s ih =>
    rw [List.foldr_cons, merge_onSegments_consGap, ih, List.length_cons, Nat.add_assoc,
      Nat.add_comm 1]
    exact (cons_text_append [c] s _).symm

/-- **Characters that begin no match** stay before what is made of the text behind them. -/
theorem BeginsOutside.merge_onText (h : rule.BeginsOutside s) (t : Text) (ps : List Piece) :
    merge (rule.onText (s ++ t) ++ ps) =
      cons (.text s) (merge (rule.onSegments (s ++ t) s.length
        (rule.pattern.body.segmentsFrom s.getLast? t) ++ ps)) := by
  obtain ⟨e, he, hs⟩ := h
  have hsegments : rule.pattern.segments (s ++ t) =
      s.foldr Segment.consGap (rule.pattern.body.segmentsFrom s.getLast? t) := by
    have happend := Expr.segmentsFrom_append hs none t
    rwa [Option.or_none, ← he] at happend
  rw [onText, hsegments, merge_onSegments_foldr_consGap, Nat.zero_add]

/-- **What a document begins with stays** if no match begins in it. -/
theorem BeginsOutside.onPieces (h : rule.BeginsOutside s) (hs : s ≠ []) (hps : OpensWith s ps) :
    OpensWith s (rule.onPieces ps) := by
  obtain ⟨u, qs, rfl⟩ := hps
  rw [Rule.onPieces, List.flatMap_cons, onPiece, h.merge_onText]
  exact opensWith_cons hs _

/-- **What a document ends with stays** if no match ends in it. -/
theorem EndsOutside.onPieces (h : rule.EndsOutside s) (hs : s ≠ []) (hps : ClosesWith s ps) :
    ClosesWith s (rule.onPieces ps) := by
  obtain ⟨e, he, hends⟩ := h
  obtain ⟨qs, u, rfl⟩ := hps
  have hcuts := cuts_segments rule.pattern (u ++ s)
  rw [he] at hcuts
  obtain ⟨ss, v, hss⟩ :=
    hcuts.exists_gap_at_end (covered_segments rule.pattern (u ++ s)) hs hends
  have htext : rule.onText (u ++ s) = rule.onSegments (u ++ s) 0 ss ++ [.text (v ++ s)] := by
    rw [onText, hss, onSegments_append]
    rfl
  rw [Rule.onPieces, List.flatMap_append, List.flatMap_singleton, onPiece, htext,
    ← List.append_assoc]
  obtain ⟨rs, w, h⟩ := closesWith_merge (s := v ++ s) (by simp [hs])
    (qs.flatMap rule.onPiece ++ rule.onSegments (u ++ s) 0 ss)
  exact ⟨rs, w ++ v, by rw [h, List.append_assoc]⟩

end Rule

namespace RuleSet

variable {k : SpanClass} {G G' : List Piece → List Piece → Prop} {set : RuleSet} {ps : List Piece}
  {s : Text}

/-- **What stands next to the spans of a class**, where one rule of a set makes them. -/
theorem flanked_apply (name : String) (before after : List Rule) {maker : Rule}
    (hbefore : ∀ rule ∈ before, rule.MakesOnly fun j => j ≠ k) (hmaker : maker.Flanks k G)
    (hafter : ∀ rule ∈ after, rule.MakesOnly fun j => j ≠ k)
    (hkept : ∀ ps qs, G ps qs →
      G' (ps.flatMap (onPiece ⟨name, after⟩)) (qs.flatMap (onPiece ⟨name, after⟩)))
    (e : Text) : Flanked k G' (apply ⟨name, before ++ maker :: after⟩ e) := by
  have hnone : ∀ t, .span k t ∉ apply ⟨name, before⟩ e := fun t ht =>
    kind_of_span_mem_apply hbefore e k t ht rfl
  have hmade := hmaker.onPieces hnone
  have happly : apply ⟨name, before ++ maker :: after⟩ e =
      (maker.onPieces (apply ⟨name, before⟩ e)).flatMap (onPiece ⟨name, after⟩) := by
    rw [apply, List.foldl_append, List.foldl_cons]
    exact foldl_onPieces_eq_flatMap name after (maker.apart_onPieces _)
  intro ps t qs heq
  rw [happly] at heq
  obtain ⟨ps₁, p, ps₂, x, y, hps, hp, rfl, rfl⟩ := exists_of_flatMap_eq heq
  by_cases hpt : p.IsText
  · cases p with
    | text u =>
      -- The rules behind make no such span.
      have hmem : .span k t ∈ apply ⟨name, after⟩ u := by
        change onPiece ⟨name, after⟩ (.text u) = _ at hp
        rw [onPiece] at hp
        rw [hp]
        simp
      exact absurd rfl (kind_of_span_mem_apply hafter u k t hmem)
    | span | markup => exact hpt.elim
  · -- A sealed piece is the span, and what is around it is worked on apart.
    rw [onPiece_of_not_isText hpt] at hp
    obtain ⟨rfl, rfl, rfl⟩ := eq_of_singleton_eq hp
    rw [List.append_nil, List.nil_append]
    exact hkept ps₁ ps₂ (hmade ps₁ t ps₂ hps)

/-- What a document begins with stays if no match of the rules begins in it. -/
theorem opensWith_flatMap (h : ∀ rule ∈ set.rules, rule.BeginsOutside s) (hs : s ≠ [])
    (hps : OpensWith s ps) : OpensWith s (ps.flatMap set.onPiece) := by
  obtain ⟨u, qs, rfl⟩ := hps
  have happly : OpensWith s (set.apply (s ++ u)) :=
    apply_induction ⟨u, [], rfl⟩ fun rule hrule _ hps => (h rule hrule).onPieces hs hps
  exact happly.append _

/-- What a document ends with stays if no match of the rules ends in it. -/
theorem closesWith_flatMap (h : ∀ rule ∈ set.rules, rule.EndsOutside s) (hs : s ≠ [])
    (hps : ClosesWith s ps) : ClosesWith s (ps.flatMap set.onPiece) := by
  obtain ⟨qs, u, rfl⟩ := hps
  have happly : ClosesWith s (set.apply (u ++ s)) :=
    apply_induction ⟨[], u, rfl⟩ fun rule hrule _ hps => (h rule hrule).onPieces hs hps
  rw [List.flatMap_append, List.flatMap_singleton]
  exact happly.append _

end RuleSet

end CodeMarkup
