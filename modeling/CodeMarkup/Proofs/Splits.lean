import CodeMarkup.Proofs.Passes

/-!
# Matches inside of entities

Rules search escaped text, and nothing keeps a match from beginning or ending inside of
an entity. Where this happens (`CodeMarkup.Rule.SplitsEntity`), one of the two places
becomes the edge of a span, and a span stays where it is: what stands before the edge is
not escaped, whatever later rules do (`CodeMarkup.RuleSet.Wraps.exists_begun`). Where it
does not happen, all pieces are escaped texts
(`CodeMarkup.RuleSet.Wraps.isEscaped_apply`). So for rules that wrap their matches,
**splitting an entity is the only way to lose one**.

A rule that makes pieces of its own **keeps entities** (`CodeMarkup.Rule.KeepsEntities`) if
its matches begin outside of them and the pieces are escaped texts. A set of such rules
leaves all pieces escaped (`CodeMarkup.RuleSet.KeepsEntities.isEscaped_apply`), and no
rule of it splits an entity (`CodeMarkup.RuleSet.KeepsEntities.not_splitsEntity`).
-/

namespace CodeMarkup

open Piece Regex Markup

/-- Segments that are all escaped cover an escaped text. -/
theorem Regex.Segment.isEscaped_covered {ss : List Segment} (h : ∀ s ∈ ss, IsEscaped s.text) :
    IsEscaped (Segment.covered ss) := by
  induction ss with
  | nil => exact .nil
  | cons s ss ih => exact (h s (by simp)).append (ih fun s' hs' => h s' (by simp [hs']))

/-- Pieces that are all escaped have escaped contents. -/
theorem Piece.isEscaped_contents {ps : List Piece} (h : ∀ p ∈ ps, IsEscaped p.content) :
    IsEscaped (contents ps) := by
  induction ps with
  | nil => exact .nil
  | cons p ps ih => exact (h p (by simp)).append (ih fun q hq => h q (by simp [hq]))

/-- A place inside of an entity stays one behind more text. -/
theorem Markup.InsideEntity.append_left {u v : Text} (h : InsideEntity u v) (s : Text) :
    InsideEntity (s ++ u) v := by
  obtain ⟨e, x, y, u', v', hx, hy, hxy, rfl, rfl⟩ := h
  exact ⟨e, x, y, s ++ u', v', hx, hy, hxy, by simp, rfl⟩

namespace Rule

variable {rule : Rule}

/-! ### Splitting an entity -/

/-- That a match of the rule in a text begins or ends inside of an entity. -/
def SplitsEntity (rule : Rule) (t : Text) : Prop :=
  ∃ before r behind, rule.pattern.segments t = before ++ .hit r :: behind ∧
    (InsideEntity (Segment.covered before) (r.taken ++ Segment.covered behind) ∨
      InsideEntity (Segment.covered before ++ r.taken) (Segment.covered behind))

/-- Where all segments are escaped, none of their edges lies inside of an entity. -/
theorem not_splitsEntity {t : Text} (h : ∀ s ∈ rule.pattern.segments t, IsEscaped s.text) :
    ¬rule.SplitsEntity t := by
  rintro ⟨before, r, behind, hs, hin⟩
  rw [hs] at h
  have hbefore : IsEscaped (Segment.covered before) :=
    Segment.isEscaped_covered fun s hs => h s (by simp [hs])
  have hr : IsEscaped r.taken := h (.hit r) (by simp)
  rcases hin with hin | hin
  · exact hin.not_isEscaped hbefore
  · exact hin.not_isEscaped (hbefore.append hr)

/-- **Where no match splits an entity**, all segments of an escaped text are escaped. -/
theorem isEscaped_segments {t : Text} (ht : IsEscaped t) (h : ¬rule.SplitsEntity t) :
    ∀ s ∈ rule.pattern.segments t, IsEscaped s.text := by
  -- The induction follows the scan; `before` is what has been passed, and it is escaped.
  have hscan : ∀ prev ss, Cuts rule.pattern.body prev ss → ∀ before,
      rule.pattern.segments t = before ++ ss → IsEscaped (Segment.covered before) →
        ∀ s ∈ ss, IsEscaped s.text := by
    intro prev ss hcuts
    induction hcuts with
    | nil => simp
    | @hit _ r ss _ _ _ ih =>
      intro before hs hbefore
      have hcov : IsEscaped (Segment.covered before ++ r.taken ++ Segment.covered ss) := by
        have := covered_segments rule.pattern t
        rw [hs] at this
        simpa [← this, Segment.text] using ht
      rcases hcov.cut with ⟨hhit, -⟩ | hin
      · refine List.forall_mem_cons.2 ⟨hbefore.of_append hhit, ?_⟩
        refine ih (before ++ [.hit r]) (by simp [hs]) ?_
        simpa [Segment.text] using hhit
      · exact absurd ⟨before, r, ss, hs, .inr hin⟩ h
    | @gap _ u ss _ _ alone _ ih =>
      intro before hs hbefore
      have hcov : IsEscaped (Segment.covered (before ++ [.gap u]) ++ Segment.covered ss) := by
        have := covered_segments rule.pattern t
        rw [hs] at this
        simpa [← this, Segment.text] using ht
      have hgap : IsEscaped (Segment.covered (before ++ [.gap u])) := by
        -- A gap ends at the end of the text or where a match begins.
        rcases ss with _ | ⟨v | r, ss⟩
        · simpa using hcov
        · exact absurd rfl (alone v ss)
        · rcases hcov.cut with ⟨hgap, -⟩ | hin
          · exact hgap
          · exact absurd ⟨before ++ [.gap u], r, ss, by simp [hs], .inl hin⟩ h
      refine List.forall_mem_cons.2 ⟨?_, ih (before ++ [.gap u]) (by simp [hs]) hgap⟩
      exact hbefore.of_append (by simpa [Segment.text] using hgap)
  exact hscan none _ (cuts_segments rule.pattern t) [] rfl .nil

/-! ### Keeping entities -/

/-- That a rule keeps entities: its matches begin outside of them, and the pieces that it
makes of a match in an escaped text are escaped. -/
def KeepsEntities (rule : Rule) : Prop :=
  ∀ prev v (m : Match), rule.pattern.body.matchAt? prev (m.run.taken ++ v) = some m.run →
    m.run.taken ≠ [] →
      Foreign m.run.taken ∧
        (IsEscaped (m.run.taken ++ v) → ∀ p ∈ rule.emitter.emit m, IsEscaped p.content)

/-- **What a rule that keeps entities makes of an escaped text**: segments and pieces that are
escaped. -/
theorem KeepsEntities.onSegments (h : rule.KeepsEntities) (hsp : rule.Spells)
    {prev : Option Char} {ss : List Segment} (hs : Cuts rule.pattern.body prev ss)
    (he : IsEscaped (Segment.covered ss)) (t : Text) :
    ∀ s ∈ ss, IsEscaped s.text ∧ ∀ n, ∀ p ∈ rule.onSegment t (n, s), IsEscaped p.content := by
  induction hs with
  | nil => simp
  | @hit prev r ss hf ht _ ih =>
    have hpieces : ∀ n, ∀ p ∈ rule.emitter.emit ⟨t, n, r⟩, IsEscaped p.content := fun n =>
      (h prev _ ⟨t, n, r⟩ hf ht).2 he
    have htaken : IsEscaped r.taken := by
      rw [← (hsp _ _ ⟨t, 0, r⟩ hf ht).1]
      exact isEscaped_contents (hpieces 0)
    refine List.forall_mem_cons.2 ⟨⟨htaken, hpieces⟩, ih (htaken.of_append he)⟩
  | @gap _ u ss _ _ alone hcuts ih =>
    obtain ⟨hu, hss⟩ : IsEscaped u ∧ IsEscaped (Segment.covered ss) := by
      cases hcuts with
      | nil => exact ⟨by simpa [Segment.text] using he, .nil⟩
      | @hit _ r _ hf ht _ => exact he.cut_of_foreign (h _ _ ⟨t, 0, r⟩ hf ht).1
      | gap => exact absurd rfl (alone _ _)
    refine List.forall_mem_cons.2 ⟨⟨hu, fun _ p hp => ?_⟩, ih hss⟩
    obtain rfl : p = .text u := by simpa [onSegment] using hp
    exact hu

end Rule

/-! ### Sets of rules -/

namespace RuleSet

variable {set : RuleSet} {e : Text}

/-- That a match of one of the rules, when its turn comes, begins or ends inside of an
entity. -/
def SplitsEntity (set : RuleSet) (e : Text) : Prop :=
  ∃ before rule after t, set.rules = before ++ rule :: after ∧
    .text t ∈ RuleSet.apply ⟨set.name, before⟩ e ∧ rule.SplitsEntity t

/-- The rules before and those from one rule on. -/
theorem apply_append (name : String) (before after : List Rule) (e : Text) :
    RuleSet.apply ⟨name, before ++ after⟩ e =
      after.foldl (fun ps rule => rule.onPieces ps) (RuleSet.apply ⟨name, before⟩ e) :=
  List.foldl_append

/-- The last rule. -/
theorem apply_concat (name : String) (before : List Rule) (last : Rule) (e : Text) :
    RuleSet.apply ⟨name, before ++ [last]⟩ e = last.onPieces (RuleSet.apply ⟨name, before⟩ e) := by
  rw [apply_append, List.foldl_cons, List.foldl_nil]

/-- What is true of the pieces at first and stays true as long as the rules so far have been
applied is true in the end, and whenever the turn of a rule comes. -/
theorem apply_before_induction {I : List Piece → Prop} (h₀ : I [.text e])
    (hstep : ∀ before rule after, set.rules = before ++ rule :: after →
      I (RuleSet.apply ⟨set.name, before⟩ e) →
        I (rule.onPieces (RuleSet.apply ⟨set.name, before⟩ e)))
    {before after : List Rule} (h : set.rules = before ++ after) :
    I (RuleSet.apply ⟨set.name, before⟩ e) := by
  induction before using List.reverseRecOn generalizing after with
  | nil => exact h₀
  | append_singleton before rule ih =>
    rw [List.append_assoc, List.singleton_append] at h
    rw [apply_append]
    exact hstep before rule after h (ih h)

/-- **One rule on escaped pieces**: they stay escaped if what it makes of each text is. -/
theorem isEscaped_onPieces {rule : Rule} {ps : List Piece} (hps : ∀ p ∈ ps, IsEscaped p.content)
    (h : ∀ t, .text t ∈ ps → ∀ p ∈ rule.onText t, IsEscaped p.content) :
    ∀ p ∈ rule.onPieces ps, IsEscaped p.content := by
  refine forall_mem_merge (fun t u ht hu => ht.append hu) fun q hq => ?_
  obtain ⟨p, hp, hq⟩ := List.mem_flatMap.1 hq
  cases p with
  | text t => exact h t hp q hq
  | span k t =>
    obtain rfl : q = .span k t := by simpa [Rule.onPiece] using hq
    exact hps _ hp
  | markup t =>
    obtain rfl : q = .markup t := by simpa [Rule.onPiece] using hq
    exact hps _ hp

/-! ### Rules that keep entities -/

/-- That all rules spell out their matches and keep entities. -/
def KeepsEntities (set : RuleSet) : Prop := ∀ rule ∈ set.rules, rule.Spells ∧ rule.KeepsEntities

/-- The pieces are escaped whenever the turn of a rule comes. -/
theorem KeepsEntities.isEscaped_before (h : set.KeepsEntities) (he : IsEscaped e)
    {before after : List Rule} (hs : set.rules = before ++ after) :
    ∀ p ∈ RuleSet.apply ⟨set.name, before⟩ e, IsEscaped p.content := by
  refine apply_before_induction (I := fun ps => ∀ p ∈ ps, IsEscaped p.content) ?_
    (fun before rule after hs hps => isEscaped_onPieces hps fun t ht => ?_) hs
  · rintro p hp
    obtain rfl := List.mem_singleton.1 hp
    exact he
  · obtain ⟨hsp, hk⟩ := h rule (by simp [hs])
    intro p hp
    obtain ⟨s, hs, n, hp⟩ := Rule.exists_of_mem_onSegments hp
    have ht : IsEscaped (Segment.covered (rule.pattern.segments t)) := by
      rw [covered_segments]
      exact hps _ ht
    exact (hk.onSegments hsp (cuts_segments rule.pattern t) ht t s hs).2 n p hp

/-- **Rules that keep entities leave all pieces escaped.** -/
theorem KeepsEntities.isEscaped_apply (h : set.KeepsEntities) (he : IsEscaped e) :
    ∀ p ∈ set.apply e, IsEscaped p.content :=
  h.isEscaped_before he (List.append_nil set.rules).symm

/-- **Rules that keep entities split none.** -/
theorem KeepsEntities.not_splitsEntity (h : set.KeepsEntities) (he : IsEscaped e) :
    ¬set.SplitsEntity e := by
  rintro ⟨before, rule, after, t, hs, ht, hsplit⟩
  obtain ⟨hsp, hk⟩ := h rule (by simp [hs])
  have ht : IsEscaped (Segment.covered (rule.pattern.segments t)) := by
    rw [covered_segments]
    exact h.isEscaped_before he hs _ ht
  have hseg := hk.onSegments hsp (cuts_segments rule.pattern t) ht t
  exact Rule.not_splitsEntity (fun s hs => (hseg s hs).1) hsplit

/-! ### Rules that wrap their matches -/

/-- That all rules wrap their matches. -/
def Wraps (set : RuleSet) : Prop := ∀ rule ∈ set.rules, ∃ k, rule.emitter = .wrap k

theorem Wraps.spells (h : set.Wraps) : set.Spells := by
  intro rule hrule
  obtain ⟨k, hk⟩ := h rule hrule
  exact Rule.spells_wrap hk

/-- **Without a split, rules that wrap their matches leave all pieces escaped.** -/
theorem Wraps.isEscaped_apply (h : set.Wraps) (he : IsEscaped e) (hn : ¬set.SplitsEntity e) :
    ∀ p ∈ set.apply e, IsEscaped p.content := by
  refine apply_before_induction (I := fun ps => ∀ p ∈ ps, IsEscaped p.content) ?_
    (fun before rule after hs hps => isEscaped_onPieces hps fun t ht => ?_)
    (List.append_nil set.rules).symm
  · rintro p hp
    obtain rfl := List.mem_singleton.1 hp
    exact he
  · obtain ⟨k, hk⟩ := h rule (by simp [hs])
    have hseg : ∀ s ∈ rule.pattern.segments t, IsEscaped s.text :=
      Rule.isEscaped_segments (hps _ ht) fun hsplit => hn ⟨before, rule, after, t, hs, ht, hsplit⟩
    intro p hp
    obtain ⟨s, hs, n, hp⟩ := Rule.exists_of_mem_onSegments hp
    obtain ⟨q, hq, hcontent⟩ := (Rule.makesOne_wrap hk).onSegment t n s
    rw [hq, List.mem_singleton] at hp
    rw [hp, hcontent]
    exact hseg s hs

/-- **A split stays**: in the end there is a span at one edge of which an entity has been
begun. -/
theorem Wraps.exists_begun (h : set.Wraps) (hs : set.SplitsEntity e) :
    ∃ ps k x qs, set.apply e = ps ++ .span k x :: qs ∧
      (¬IsEscaped (contents ps) ∨ ¬IsEscaped (contents ps ++ x)) := by
  obtain ⟨before, rule, after, t, hrules, ht, ss, r, ss', hseg, hin⟩ := hs
  obtain ⟨k, hk⟩ := h rule (by simp [hrules])
  obtain ⟨ps, qs, hps⟩ := List.append_of_mem ht
  have hsp : rule.Spells := Rule.spells_wrap hk
  -- The piece of the match, among those of the text and then among all of them.
  obtain ⟨x, y, hx, htext⟩ : ∃ x y, contents x = Segment.covered ss ∧
      rule.onText t = x ++ .span k r.taken :: y := by
    rw [Rule.onText, hseg, Rule.onSegments_append, Rule.onSegments_cons, Rule.onSegment, hk,
      Emitter.emit, List.singleton_append]
    exact ⟨_, _, (Rule.makesOne_wrap hk).contents_onSegments t 0 ss, rfl⟩
  have hsealed : ¬(Piece.span k r.taken).IsText := fun h => h
  have hpass : rule.onPieces (RuleSet.apply ⟨set.name, before⟩ e) =
      merge (ps.flatMap rule.onPiece ++ x) ++
        .span k r.taken :: merge (y ++ qs.flatMap rule.onPiece) := by
    rw [← merge_append_cons hsealed, Rule.onPieces, hps, List.flatMap_append,
      List.flatMap_cons, Rule.onPiece, htext]
    simp
  have hafter : ∀ rule' ∈ after, rule'.Spells := fun rule' hr => h.spells rule' (by simp [hrules, hr])
  obtain ⟨ps', qs', hfinal, hcontents, -⟩ :=
    sealed_foldl hafter hsealed (merge (ps.flatMap rule.onPiece ++ x))
      (merge (y ++ qs.flatMap rule.onPiece))
  rw [contents_merge, contents_append, hsp.contents_flatMap, hx] at hcontents
  have happly : set.apply e = ps' ++ .span k r.taken :: qs' := by
    have happly := apply_append set.name before (rule :: after) e
    rwa [← hrules, List.foldl_cons, hpass, hfinal] at happly
  refine ⟨ps', k, r.taken, qs', happly, ?_⟩
  rw [hcontents]
  rcases hin with hin | hin
  · exact .inl (hin.append_left (contents ps)).not_isEscaped
  · rw [List.append_assoc]
    exact .inr (hin.append_left (contents ps)).not_isEscaped

end RuleSet

end CodeMarkup
