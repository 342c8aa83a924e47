import CodeMarkup.Proofs.Markup.Rendered
import CodeMarkup.Proofs.Regex.Cuts
import CodeMarkup.Rule

/-!
# Rules and passes

What rules do to a document, whatever their patterns are.

A rule **spells out** its matches (`CodeMarkup.Rule.Spells`) if the pieces that it
makes of a match hold the match, and are texts and spans that are not empty. Such a
rule changes no character of the contents and makes no empty span
(`CodeMarkup.Rule.Spells.contents_onPieces`, `CodeMarkup.Rule.Spells.solid_onPieces`),
and so does a set of such rules (`CodeMarkup.RuleSet.contents_apply`,
`CodeMarkup.RuleSet.solid_apply`). A rule that wraps its matches is of this kind
(`CodeMarkup.Rule.spells_wrap`).

A span is *sealed*: what has been made stays, and so does what the pieces before it
hold (`CodeMarkup.Rule.Spells.sealed_onPieces`).
-/

namespace CodeMarkup

namespace Piece

/-! ### The normal form -/

/-- Whether a piece is a text. -/
def IsText : Piece → Prop
  | text _ => True
  | _ => False

/-- The pieces with a text before them. -/
theorem cons_text (t : Text) (ps : List Piece) :
    cons (text t) ps = ps ∧ t = [] ∨
      (∃ u qs, ps = text u :: qs ∧ cons (text t) ps = text (t ++ u) :: qs) ∨
        cons (text t) ps = text t :: ps := by
  cases t with
  | nil => exact .inl ⟨rfl, rfl⟩
  | cons c t =>
    rcases ps with _ | ⟨_ | _ | _, qs⟩
    · exact .inr (.inr rfl)
    · exact .inr (.inl ⟨_, _, rfl, rfl⟩)
    · exact .inr (.inr rfl)
    · exact .inr (.inr rfl)

theorem cons_of_not_isText {p : Piece} (h : ¬p.IsText) (ps : List Piece) : cons p ps = p :: ps := by
  cases p with
  | text t => exact absurd trivial h
  | span | markup => rfl

theorem contents_cons' (p : Piece) (ps : List Piece) :
    contents (cons p ps) = p.content ++ contents ps := by
  cases p with
  | text t =>
    rcases cons_text t ps with ⟨h, rfl⟩ | ⟨u, qs, rfl, h⟩ | h
    · rw [h]
      rfl
    · simp [h, content]
    · simp [h, content]
  | span | markup => rfl

/-- **The normal form holds what the pieces hold.** -/
theorem contents_merge (ps : List Piece) : contents (merge ps) = contents ps := by
  induction ps with
  | nil => rfl
  | cons p ps ih =>
    change contents (cons p (merge ps)) = _
    rw [contents_cons', ih, contents_cons]

/-- What holds of all pieces holds of those of the normal form, if it holds of two texts
made one. -/
theorem forall_mem_merge {Q : Piece → Prop} (hQ : ∀ t u, Q (text t) → Q (text u) → Q (text (t ++ u)))
    {ps : List Piece} (h : ∀ p ∈ ps, Q p) : ∀ p ∈ merge ps, Q p := by
  induction ps with
  | nil => exact h
  | cons p ps ih =>
    have ih := ih fun q hq => h q (by simp [hq])
    have hp := h p (by simp)
    change ∀ q ∈ cons p (merge ps), Q q
    cases p with
    | text t =>
      rcases cons_text t (merge ps) with ⟨he, -⟩ | ⟨u, qs, hm, he⟩ | he
      · rwa [he]
      · rw [hm] at ih
        rw [he]
        obtain ⟨hu, hqs⟩ := List.forall_mem_cons.1 ih
        exact List.forall_mem_cons.2 ⟨hQ t u hp hu, hqs⟩
      · rw [he]
        exact List.forall_mem_cons.2 ⟨hp, ih⟩
    | span | markup => exact List.forall_mem_cons.2 ⟨hp, ih⟩

/-- Texts are made one on each side of a sealed piece. -/
theorem merge_append_cons {p : Piece} (hp : ¬p.IsText) (ps qs : List Piece) :
    merge (ps ++ p :: qs) = merge ps ++ p :: merge qs := by
  induction ps with
  | nil => exact cons_of_not_isText hp (merge qs)
  | cons q ps ih =>
    change cons q (merge (ps ++ p :: qs)) = cons q (merge ps) ++ _
    rw [ih]
    cases q with
    | text t =>
      cases t with
      | nil => rfl
      | cons c t =>
        rcases merge ps with _ | ⟨_ | _ | _, qs⟩
        · cases p with
          | text => exact absurd trivial hp
          | span | markup => rfl
        · rfl
        · rfl
        · rfl
    | span | markup => rfl

end Piece

open Piece Regex

namespace Rule

/-! ### Segments -/

section Segments

variable {rule : Rule} {t : Text} {n : Nat} {ss : List Segment} {p : Piece}

theorem onSegments_append (rule : Rule) (t : Text) (n : Nat) (ss ss' : List Segment) :
    rule.onSegments t n (ss ++ ss') =
      rule.onSegments t n ss ++ rule.onSegments t (n + (Segment.covered ss).length) ss' := by
  rw [onSegments, Segment.placed_append, List.flatMap_append]
  rfl

/-- A character in the gap before segments stands before what is made of them, as a text or in
the text that this begins with. -/
theorem onSegments_consGap (rule : Rule) (t : Text) (n : Nat) (c : Char) (ss : List Segment) :
    (∃ u ps, rule.onSegments t (n + 1) ss = .text u :: ps ∧
        rule.onSegments t n (Segment.consGap c ss) = .text (c :: u) :: ps) ∨
      rule.onSegments t n (Segment.consGap c ss) = .text [c] :: rule.onSegments t (n + 1) ss := by
  rcases ss with _ | ⟨u | r, ss⟩
  · exact .inr rfl
  · refine .inl ⟨u, rule.onSegments t (n + 1 + u.length) ss, rfl, ?_⟩
    simp [Segment.consGap, onSegment, Segment.text, Nat.add_assoc, Nat.add_comm 1]
  · exact .inr rfl

/-- What is made of segments is made of one of them, at its place. -/
theorem exists_of_mem_onSegments (h : p ∈ rule.onSegments t n ss) :
    ∃ s ∈ ss, ∃ k, p ∈ rule.onSegment t (k, s) := by
  obtain ⟨⟨k, s⟩, hs, hp⟩ := List.mem_flatMap.1 h
  exact ⟨s, Segment.mem_of_mem_placed hs, k, hp⟩

end Segments

/-! ### One piece of each match -/

/-- That a rule makes of each match one piece that holds it. -/
def MakesOne (rule : Rule) : Prop :=
  ∀ m : Match, ∃ p, rule.emitter.emit m = [p] ∧ p.content = m.run.taken

/-- A rule that wraps its matches makes one span of each. -/
theorem makesOne_wrap {rule : Rule} {k : SpanClass} (h : rule.emitter = .wrap k) :
    rule.MakesOne := fun m => ⟨.span k m.run.taken, by rw [h]; rfl, rfl⟩

/-- Of a segment one piece is made that holds it. -/
theorem MakesOne.onSegment {rule : Rule} (h : rule.MakesOne) (t : Text) (n : Nat) (s : Segment) :
    ∃ p, rule.onSegment t (n, s) = [p] ∧ p.content = s.text := by
  cases s with
  | gap u => exact ⟨.text u, rfl, rfl⟩
  | hit r => exact h ⟨t, n, r⟩

theorem MakesOne.contents_onSegments {rule : Rule} (h : rule.MakesOne) (t : Text) (n : Nat)
    (ss : List Segment) : contents (rule.onSegments t n ss) = Segment.covered ss := by
  induction ss generalizing n with
  | nil => rfl
  | cons s ss ih =>
    obtain ⟨p, hp, hcontent⟩ := h.onSegment t n s
    rw [onSegments_cons, hp, List.singleton_append, contents_cons, ih, hcontent,
      Segment.covered_cons]

/-! ### Spelling out matches -/

/-- That a rule spells out its matches: the pieces that it makes of a match hold the match,
and they are texts and spans that are not empty. -/
def Spells (rule : Rule) : Prop :=
  ∀ prev t (m : Match), rule.pattern.body.matchAt? prev t = some m.run → m.run.taken ≠ [] →
    contents (rule.emitter.emit m) = m.run.taken ∧ ∀ p ∈ rule.emitter.emit m, p.IsSolid

/-- **A rule that wraps its matches spells them out**, whatever its pattern is. -/
theorem spells_wrap {rule : Rule} {k : SpanClass} (h : rule.emitter = .wrap k) : rule.Spells := by
  intro prev t m _ hm
  rw [h]
  refine ⟨by simp [Emitter.emit, content], fun p hp => ?_⟩
  obtain rfl : p = .span k m.run.taken := by simpa [Emitter.emit] using hp
  exact hm

variable {rule : Rule}

theorem Spells.onSegments (h : rule.Spells) {prev : Option Char} {ss : List Segment}
    (hs : Cuts rule.pattern.body prev ss) (t : Text) (n : Nat) :
    contents (rule.onSegments t n ss) = Segment.covered ss ∧
      ∀ p ∈ rule.onSegments t n ss, p.IsSolid := by
  induction hs generalizing n with
  | nil => exact ⟨rfl, by simp⟩
  | @hit _ r _ hf ht _ ih =>
    obtain ⟨hc, hsolid⟩ := h _ _ ⟨t, n, r⟩ hf ht
    obtain ⟨ihc, ihsolid⟩ := ih (n + r.taken.length)
    simp only [onSegments_cons, List.mem_append, contents_append, Segment.covered_cons]
    refine ⟨congrArg₂ (· ++ ·) hc ihc, ?_⟩
    rintro p (hp | hp)
    · exact hsolid p hp
    · exact ihsolid p hp
  | @gap _ u _ _ _ _ _ ih =>
    obtain ⟨ihc, ihsolid⟩ := ih (n + u.length)
    simp only [onSegments_cons, List.mem_append, contents_append, Segment.covered_cons]
    refine ⟨congrArg₂ (· ++ ·) (List.append_nil u) ihc, ?_⟩
    rintro p (hp | hp)
    · obtain rfl : p = .text u := by simpa [onSegment] using hp
      trivial
    · exact ihsolid p hp

theorem Spells.contents_onText (h : rule.Spells) (t : Text) : contents (rule.onText t) = t :=
  (h.onSegments (cuts_segments rule.pattern t) t 0).1.trans (covered_segments rule.pattern t)

theorem Spells.contents_onPiece (h : rule.Spells) (p : Piece) :
    contents (rule.onPiece p) = p.content := by
  cases p with
  | text t => exact h.contents_onText t
  | span | markup => simp [onPiece]

theorem Spells.contents_flatMap (h : rule.Spells) (ps : List Piece) :
    contents (ps.flatMap rule.onPiece) = contents ps := by
  induction ps with
  | nil => rfl
  | cons p ps ih => rw [List.flatMap_cons, contents_append, h.contents_onPiece, ih, contents_cons]

/-- **The rule changes no character.** -/
theorem Spells.contents_onPieces (h : rule.Spells) (ps : List Piece) :
    contents (rule.onPieces ps) = contents ps := by
  rw [onPieces, contents_merge, h.contents_flatMap]

/-- **The rule makes no empty span**, and no markup. -/
theorem Spells.solid_onPieces (h : rule.Spells) {ps : List Piece} (hps : ∀ p ∈ ps, p.IsSolid) :
    ∀ p ∈ rule.onPieces ps, p.IsSolid := by
  refine forall_mem_merge (fun _ _ _ _ => trivial) fun q hq => ?_
  obtain ⟨p, hp, hq⟩ := List.mem_flatMap.1 hq
  cases p with
  | text t => exact (h.onSegments (cuts_segments rule.pattern t) t 0).2 q hq
  | span k t =>
    obtain rfl : q = .span k t := by simpa [onPiece] using hq
    exact hps _ hp
  | markup t => exact (hps _ hp).elim

/-- **A sealed piece stays**, at the same place of the contents. -/
theorem Spells.sealed_onPieces (h : rule.Spells) {p : Piece} (hp : ¬p.IsText) (ps qs : List Piece) :
    ∃ ps' qs', rule.onPieces (ps ++ p :: qs) = ps' ++ p :: qs' ∧ contents ps' = contents ps ∧
      contents qs' = contents qs := by
  have hone : rule.onPiece p = [p] := by
    cases p with
    | text => exact absurd trivial hp
    | span | markup => rfl
  refine ⟨merge (ps.flatMap rule.onPiece), merge (qs.flatMap rule.onPiece), ?_, ?_, ?_⟩
  · rw [onPieces, List.flatMap_append, List.flatMap_cons, hone, List.singleton_append,
      merge_append_cons hp]
  · rw [contents_merge, h.contents_flatMap]
  · rw [contents_merge, h.contents_flatMap]

end Rule

/-! ### Sets of rules -/

namespace RuleSet

/-- What each rule keeps, all of them keep. -/
theorem apply_induction {I : List Piece → Prop} {set : RuleSet} {e : Text} (h₀ : I [.text e])
    (hstep : ∀ rule ∈ set.rules, ∀ ps, I ps → I (rule.onPieces ps)) : I (set.apply e) :=
  List.foldlRecOn set.rules _ h₀ fun ps hps rule hrule => hstep rule hrule ps hps

/-- That all rules spell out their matches. -/
def Spells (set : RuleSet) : Prop := ∀ rule ∈ set.rules, rule.Spells

variable {set : RuleSet}

/-- **The rules change no character** of the text. -/
theorem contents_apply (h : set.Spells) (e : Text) : contents (set.apply e) = e :=
  apply_induction (I := fun ps => contents ps = e) (List.append_nil e) fun rule hrule ps hps =>
    ((h rule hrule).contents_onPieces ps).trans hps

/-- **The rules make texts and spans that are not empty.** -/
theorem solid_apply (h : set.Spells) (e : Text) : ∀ p ∈ set.apply e, p.IsSolid :=
  apply_induction (I := fun ps => ∀ p ∈ ps, p.IsSolid)
    (by
      rintro p hp
      obtain rfl := List.mem_singleton.1 hp
      trivial)
    fun rule hrule _ hps => (h rule hrule).solid_onPieces hps

/-- A sealed piece that is there after some of the rules is there in the end, at the same
place of the contents. -/
theorem sealed_foldl {rules : List Rule} (h : ∀ rule ∈ rules, rule.Spells) {p : Piece}
    (hp : ¬p.IsText) (ps qs : List Piece) :
    ∃ ps' qs', rules.foldl (fun ps rule => rule.onPieces ps) (ps ++ p :: qs) = ps' ++ p :: qs' ∧
      contents ps' = contents ps ∧ contents qs' = contents qs := by
  induction rules generalizing ps qs with
  | nil => exact ⟨ps, qs, rfl, rfl, rfl⟩
  | cons rule rules ih =>
    obtain ⟨ps₁, qs₁, h₁, hps₁, hqs₁⟩ := (h rule (by simp)).sealed_onPieces hp ps qs
    obtain ⟨ps', qs', h', hps', hqs'⟩ := ih (fun r hr => h r (by simp [hr])) ps₁ qs₁
    exact ⟨ps', qs', by rw [List.foldl_cons, h₁, h'], hps'.trans hps₁, hqs'.trans hqs₁⟩

end RuleSet

end CodeMarkup
