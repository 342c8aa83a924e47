import CodeMarkup.Proofs.Locality
import CodeMarkup.Proofs.Regex.Edges

/-!
# What the matches leave

A rule cuts a text at its matches, and what stands in the gaps between them is less than the text:
at each end of a gap there may have been more of a word. So a word that stands by itself in a gap
(`CodeMarkup.Text.StandsIn`) need not stand by itself in the text, and a rule could set a
word free that the rules before it have not seen as a word.

The rules here do not. What carries this is a condition on both ends of a match
(`CodeMarkup.Regex.Marked.Spares`): no word goes over its end, and none goes over its start either,
unless a match could have begun with the word. Then **a word that stands in a gap stands in the
text too, at a place where no match begins** (`CodeMarkup.Regex.Cuts.exists_of_standsIn`). Either
of the two tells that there is no such word: a rule that searches for it would have found it, and
another rule leaves texts without it if it is given texts without it
(`CodeMarkup.Rule.Spares.onPieces`).
-/

namespace CodeMarkup

open Regex

/-- That `w` stands in a text, and what is next to it there, if there is anything, is no word
character. -/
def Text.StandsIn (w t : Text) : Prop :=
  ∃ u v, t = u ++ w ++ v ∧ isWordBeside false u.getLast? = false ∧
    isWordBeside false v.head? = false

/-- That a text begins and ends with a word character. -/
structure Text.IsWordlike (w : Text) : Prop where
  /-- The first character. -/
  head : isWordBeside false w.head? = true
  /-- The last character. -/
  last : isWordBeside false w.getLast? = true

theorem Text.IsWordlike.ne_nil {w : Text} (h : w.IsWordlike) : w ≠ [] := by
  rintro rfl
  cases h.head

theorem isWordBeside_of_or {ascii : Bool} {c d : Option Char}
    (h : isWordBeside ascii (c.or d) = false) : isWordBeside ascii c = false := by
  cases c with
  | none => rfl
  | some c => exact h

/-- A word that has no character in common with the start of a text stands behind it. -/
theorem Text.StandsIn.of_append {w t u : Text} (hw : w ≠ []) (ht : ∀ c ∈ t, c ∉ w)
    (h : StandsIn w (t ++ u)) : StandsIn w u := by
  obtain ⟨x, y, hxy, hx, hy⟩ := h
  rw [List.append_assoc] at hxy
  rcases List.append_eq_append_iff.1 hxy with ⟨z, rfl, hu⟩ | ⟨z, rfl, hu⟩
  · rw [List.getLast?_append] at hx
    exact ⟨z, y, by rw [hu, List.append_assoc], isWordBeside_of_or hx, hy⟩
  · cases z with
    | nil => exact ⟨[], y, by simpa using hu.symm, rfl, hy⟩
    | cons c z =>
      -- The word would begin with a character of the first text.
      obtain ⟨d, w', rfl⟩ := List.exists_cons_of_ne_nil hw
      obtain rfl : d = c := (List.cons.inj hu).1
      exact absurd List.mem_cons_self (ht d (by simp))

namespace Regex

/-! ### The place of a gap -/

namespace Cuts

variable {m : Marked} {prev : Option Char} {ss pre post : List Segment} {g : Text}

/-- Before a gap the text begins, or a match ends. -/
theorem before_gap (h : Cuts m prev (pre ++ .gap g :: post)) :
    pre = [] ∨ ∃ pre' p r, pre = pre' ++ [.hit r] ∧ r.taken ≠ [] ∧
      m.matchAt? p (r.taken ++ (g ++ Segment.covered post)) = some r := by
  rcases List.eq_nil_or_concat pre with rfl | ⟨pre', s, rfl⟩
  · exact .inl rfl
  · rw [List.concat_eq_append, List.append_assoc, List.singleton_append] at h
    have hs := h.of_append
    cases hs with
    | hit hf ht _ => exact .inr ⟨pre', _, _, by simp, ht, hf⟩
    | gap _ _ ha _ => exact absurd rfl (ha g post)

/-- Behind a gap the text ends, or a match begins. -/
theorem behind_gap (h : Cuts m prev (.gap g :: post)) :
    post = [] ∨ ∃ r post', post = .hit r :: post' ∧ r.taken ≠ [] ∧
      m.matchAt? g.getLast? (r.taken ++ Segment.covered post') = some r := by
  cases h with
  | gap _ _ ha hs =>
    cases hs with
    | nil => exact .inl rfl
    | hit hf ht _ => exact .inr ⟨_, _, rfl, ht, hf⟩
    | gap => exact absurd rfl (ha _ _)

/-- **No match begins in a gap.** -/
theorem bare_gap (h : Cuts m prev (pre ++ .gap g :: post)) {u v : Text} {c : Char}
    (hg : g = u ++ c :: v) {r : Run}
    (hr : m.matchAt? ((Segment.covered pre ++ u).getLast?.or prev)
      (c :: (v ++ Segment.covered post)) = some r) : r.taken = [] := by
  have hs := h.of_append
  cases hs with
  | gap _ hb _ _ =>
    rw [getLast?_append_or] at hr
    exact hb u c v r hg hr

end Cuts

/-! ### Words in gaps -/

/-- That no match sets the word `w` free: no word goes over the end of a match, and if `w` and
more stand over its start a match could have begun with `w`. -/
structure Marked.Spares (m : Marked) (w : Text) : Prop where
  /-- The start of a match. -/
  before : ∀ {r : Run} {t : Text}, m.matchAt? w.getLast? (r.taken ++ t) = some r → r.taken ≠ [] →
    IsEdge w.getLast? (r.taken ++ t).head? ∨
      ∀ prev, ∃ r', m.matchAt? prev (w ++ (r.taken ++ t)) = some r' ∧ r'.taken ≠ []
  /-- The end of a match. -/
  behind : ∀ {prev : Option Char} {r : Run} {t : Text},
    m.matchAt? prev (r.taken ++ t) = some r → r.taken ≠ [] → IsEdge r.taken.getLast? t.head?

/-- That matches stand between words: no word goes over the start or over the end of one. -/
structure Marked.BetweenWords (m : Marked) : Prop where
  /-- The start of a match. -/
  before : ∀ {prev : Option Char} {r : Run} {t : Text}, m.matchAt? prev t = some r →
    IsEdge prev t.head?
  /-- The end of a match. -/
  behind : ∀ {prev : Option Char} {r : Run} {t : Text},
    m.matchAt? prev (r.taken ++ t) = some r → r.taken ≠ [] → IsEdge r.taken.getLast? t.head?

theorem Expr.betweenWords {e : Expr} (hopens : e.opensAtEdge) (hcloses : e.closesAtEdge) :
    e.toMarked.BetweenWords :=
  ⟨isEdge_before hopens, isEdge_behind hcloses⟩

/-- **Matches that stand between words set no word free.** -/
theorem Marked.BetweenWords.spares {m : Marked} (h : m.BetweenWords) (w : Text) : m.Spares w :=
  ⟨fun hr _ => .inl (h.before hr), h.behind⟩

/-- **A word that stands in a gap stands in the text**, and no match begins with it. -/
theorem Cuts.exists_of_standsIn {m : Marked} {ss : List Segment} {w g : Text}
    (h : Cuts m none ss) (hm : m.Spares w) (hw : w.IsWordlike) (hg : .gap g ∈ ss)
    (hs : Text.StandsIn w g) :
    ∃ u v, Segment.covered ss = u ++ w ++ v ∧ isWordBeside false u.getLast? = false ∧
      isWordBeside false v.head? = false ∧
        ∀ r, m.matchAt? u.getLast? (w ++ v) = some r → r.taken = [] := by
  obtain ⟨pre, post, rfl⟩ := List.append_of_mem hg
  obtain ⟨a, b, rfl, ha, hb⟩ := hs
  obtain ⟨c, w', hcw⟩ := List.exists_cons_of_ne_nil hw.ne_nil
  have hbare : ∀ r, m.matchAt? (Segment.covered pre ++ a).getLast?
      (w ++ (b ++ Segment.covered post)) = some r → r.taken = [] := by
    intro r hr
    refine h.bare_gap (u := a) (v := w' ++ b) (c := c) (by simp [hcw]) ?_
    simpa [hcw] using hr
  refine ⟨Segment.covered pre ++ a, b ++ Segment.covered post, by simp [Segment.text], ?_, ?_,
    hbare⟩
  · -- Before the word: something in the gap, or the end of a match.
    rw [List.getLast?_append]
    rcases List.eq_nil_or_concat a with rfl | ⟨a', d, rfl⟩
    · rcases h.before_gap with rfl | ⟨pre', p, r, rfl, hr, hf⟩
      · rfl
      · have hedge := hm.behind hf hr
        have hhead : ([] ++ w ++ b ++ Segment.covered post).head? = w.head? := by simp [hcw]
        rw [hhead] at hedge
        have hlast : (Segment.covered (pre' ++ [.hit r])).getLast? = r.taken.getLast? := by
          rw [Segment.covered_append, Segment.covered_cons, Segment.covered_nil, List.append_nil,
            List.getLast?_append, Segment.text, getLast?_or_of_ne_nil hr]
        rw [hlast]
        simpa using fun hp => hedge ⟨hp, hw.head⟩
    · simpa using ha
  · -- Behind the word: something in the gap, or the start of a match.
    cases b with
    | nil =>
      rcases h.of_append.behind_gap with rfl | ⟨r, post', rfl, hr, hf⟩
      · rfl
      · have hlast : (a ++ w ++ []).getLast? = w.getLast? := by
          rw [List.append_nil, List.getLast?_append, getLast?_or_of_ne_nil hw.ne_nil]
        rw [hlast] at hf
        rcases hm.before hf hr with hedge | hmatch
        · simpa [Segment.text] using fun hn => hedge ⟨hw.last, hn⟩
        · obtain ⟨r', hr', hne⟩ := hmatch (Segment.covered pre ++ a).getLast?
          exact absurd (hbare r' hr') hne
    | cons d b => exact hb

end Regex

namespace Piece

/-- Texts brought into the normal form behind others -/
theorem forall_text_mem_merge_append {P E : Text → Prop} (happend : ∀ t u, E t → P u → P (t ++ u))
    (hE : ∀ t, E t → P t) {ps qs : List Piece} (hps : ∀ t, .text t ∈ ps → E t)
    (hqs : ∀ t, .text t ∈ merge qs → P t) : ∀ t, .text t ∈ merge (ps ++ qs) → P t := by
  induction ps with
  | nil => exact hqs
  | cons p ps ih =>
    have ih := ih fun t ht => hps t (List.mem_cons_of_mem _ ht)
    change ∀ t, .text t ∈ cons p (merge (ps ++ qs)) → P t
    cases p with
    | text t =>
      have ht := hps t List.mem_cons_self
      rcases cons_text t (merge (ps ++ qs)) with ⟨h, -⟩ | ⟨u, rs, hm, h⟩ | h
      · rwa [h]
      · rw [hm] at ih
        rw [h]
        rintro v (_ | ⟨_, hv⟩)
        · exact happend t u ht (ih u List.mem_cons_self)
        · exact ih v (List.mem_cons_of_mem _ hv)
      · rw [h]
        rintro v (_ | ⟨_, hv⟩)
        · exact hE t ht
        · exact ih v hv
    | span | markup =>
      rintro v (_ | ⟨_, hv⟩)
      exact ih v hv

end Piece

open Piece

namespace Rule

variable {rule : Rule} {w : Text}

/-- That a rule sets no word free: neither do its matches, nor is there anything of
the word in the texts that its emitter returns, and these stand behind something sealed. -/
structure Spares (rule : Rule) (w : Text) : Prop where
  /-- The matches. -/
  pattern : rule.pattern.body.Spares w
  /-- What is made of a match. -/
  emits : ∀ {prev t} {m : Match}, rule.pattern.body.matchAt? prev t = some m.run →
    m.run.taken ≠ [] →
      ∃ p ps, rule.emitter.emit m = p :: ps ∧ ¬p.IsText ∧ ∀ u, .text u ∈ ps → ∀ c ∈ u, c ∉ w

/-- **A rule that wraps matches between words** sets no word free. -/
theorem spares_wrap {k : SpanClass} (hrule : rule.emitter = .wrap k)
    (h : rule.pattern.body.BetweenWords) (w : Text) : rule.Spares w where
  pattern := h.spares w
  emits {_ _} m _ _ := ⟨.span k m.run.taken, [], by rw [hrule]; rfl, fun h => h, by simp⟩

/-- What is made of a match begins with something sealed. -/
theorem Spares.merge_hit (h : rule.Spares w) {prev : Option Char} {t : Text} {m : Match}
    (hf : rule.pattern.body.matchAt? prev t = some m.run) (hm : m.run.taken ≠ [])
    (qs : List Piece) :
    ∃ p ps, merge (rule.emitter.emit m ++ qs) = p :: merge (ps ++ qs) ∧ ¬p.IsText ∧
      ∀ u, .text u ∈ ps → ∀ c ∈ u, c ∉ w := by
  obtain ⟨p, ps, hemit, hp, hps⟩ := h.emits hf hm
  exact ⟨p, ps, by rw [hemit]; exact cons_of_not_isText hp _, hp, hps⟩

/-- **What stands in no gap stands in no text** of the normal form: a gap grows together with what
an emitter returns before it only. -/
theorem Spares.forall_text_mem_merge (h : rule.Spares w) (hw : w ≠ []) {prev : Option Char}
    {ss : List Segment} (hs : Cuts rule.pattern.body prev ss)
    (hgap : ∀ g, .gap g ∈ ss → ¬Text.StandsIn w g) (t : Text) (n : Nat) :
    ∀ u, .text u ∈ merge (rule.onSegments t n ss) → ¬Text.StandsIn w u := by
  have happend : ∀ t u : Text, (∀ c ∈ t, c ∉ w) → ¬Text.StandsIn w u → ¬Text.StandsIn w (t ++ u) :=
    fun t u ht hu hs => hu (hs.of_append hw ht)
  have hnil : ¬Text.StandsIn w [] := by
    rintro ⟨x, y, hxy, -⟩
    exact hw (by simp_all)
  induction hs generalizing n with
  | nil => simp [merge]
  | @hit _ r _ hf ht _ ih =>
    have ih := ih (fun g hg => hgap g (List.mem_cons_of_mem _ hg)) (n + r.taken.length)
    obtain ⟨p, ps, hmerge, hp, hps⟩ := h.merge_hit (m := ⟨t, n, r⟩) hf ht _
    intro u hu
    rw [onSegments_cons, onSegment, hmerge] at hu
    rcases List.mem_cons.1 hu with rfl | hu
    · exact absurd trivial hp
    · have hE : ∀ t : Text, (∀ c ∈ t, c ∉ w) → ¬Text.StandsIn w t := fun t ht => by
        simpa using happend t [] ht hnil
      exact forall_text_mem_merge_append happend hE hps ih u hu
  | @gap _ g ss hg _ ha hs ih =>
    have ih := ih (fun g hg => hgap g (List.mem_cons_of_mem _ hg)) (n + g.length)
    -- Behind a gap there is nothing, or something sealed.
    have hnext : ∀ u qs, merge (rule.onSegments t (n + g.length) ss) ≠ .text u :: qs := by
      intro u qs hm
      cases hs with
      | nil => cases hm
      | @hit _ r _ hf hr _ =>
        obtain ⟨p, ps, hmerge, hp, -⟩ := h.merge_hit (m := ⟨t, n + g.length, r⟩) hf hr _
        rw [onSegments_cons, onSegment, hmerge] at hm
        exact hp ((List.cons.inj hm).1 ▸ trivial)
      | gap => exact ha _ _ rfl
    intro u hu
    change .text u ∈ cons (.text g) (merge (rule.onSegments t (n + g.length) ss)) at hu
    rcases cons_text g (merge (rule.onSegments t (n + g.length) ss)) with
      ⟨-, rfl⟩ | ⟨v, qs, hm, -⟩ | hm
    · exact absurd rfl hg
    · exact absurd hm (hnext v qs)
    · rw [hm] at hu
      rcases List.mem_cons.1 hu with hu | hu
      · obtain rfl := Piece.text.inj hu
        exact hgap u List.mem_cons_self
      · exact ih u hu

/-- **What stands in a text after the rule stood in the text**, at a place where no match
begins. -/
theorem Spares.exists_of_standsIn (h : rule.Spares w) (hw : w.IsWordlike) {t u : Text}
    (hu : .text u ∈ merge (rule.onText t)) (hs : Text.StandsIn w u) :
    ∃ x v, t = x ++ w ++ v ∧ isWordBeside false x.getLast? = false ∧
      isWordBeside false v.head? = false ∧
        ∀ r, rule.pattern.body.matchAt? x.getLast? (w ++ v) = some r → r.taken = [] := by
  have hcuts := cuts_segments rule.pattern t
  by_contra hno
  refine h.forall_text_mem_merge hw.ne_nil hcuts (fun g hg hs => hno ?_) t 0 u hu hs
  have := hcuts.exists_of_standsIn h.pattern hw hg hs
  rwa [covered_segments] at this

/-- **Texts without a word stay without it.** -/
theorem Spares.onPieces (h : rule.Spares w) (hw : w.IsWordlike) {ps : List Piece} (hps : Apart ps)
    (hno : ∀ t, .text t ∈ ps → ¬Text.StandsIn w t) :
    ∀ t, .text t ∈ rule.onPieces ps → ¬Text.StandsIn w t := by
  intro u hu hs
  obtain ⟨t, ht, hu⟩ := exists_of_text_mem_onPieces hps hu
  obtain ⟨x, v, rfl, hx, hv, -⟩ := h.exists_of_standsIn hw hu hs
  exact hno _ ht ⟨x, v, rfl, hx, hv⟩

/-! ### Characters in gaps -/

/-- **A character that a wrapping rule leaves in a text was there before**, at a place where no
match begins. -/
theorem exists_of_mem_text {k : SpanClass} (hrule : rule.emitter = .wrap k) {t u : Text}
    (hu : .text u ∈ merge (rule.onText t)) {c : Char} (hc : c ∈ u) :
    ∃ x v, t = x ++ c :: v ∧
      ∀ r, rule.pattern.body.matchAt? x.getLast? (c :: v) = some r → r.taken = [] := by
  have hcuts := cuts_segments rule.pattern t
  have hcovered := covered_segments rule.pattern t
  -- As a property of pieces, since what is brought into the normal form has it if all pieces have.
  suffices ∀ p ∈ merge (rule.onText t), p.IsText → ∀ c ∈ p.content, ∃ x v, t = x ++ c :: v ∧
      ∀ r, rule.pattern.body.matchAt? x.getLast? (c :: v) = some r → r.taken = [] from
    this _ hu trivial c hc
  refine forall_mem_merge (fun t u ht hu _ c hc => ?_) fun p hp hptext c hc => ?_
  · rcases List.mem_append.1 hc with hc | hc
    · exact ht trivial c hc
    · exact hu trivial c hc
  · obtain ⟨s, hs, k, hp⟩ := exists_of_mem_onSegments hp
    cases s with
    | hit r =>
      rw [onSegment, hrule, Emitter.emit, List.mem_singleton] at hp
      subst hp
      exact hptext.elim
    | gap g =>
      obtain rfl := List.mem_singleton.1 hp
      obtain ⟨pre, post, hss⟩ := List.append_of_mem hs
      obtain ⟨a, b, rfl⟩ := List.append_of_mem hc
      rw [hss] at hcuts hcovered
      refine ⟨Segment.covered pre ++ a, b ++ Segment.covered post, ?_, fun r hr => ?_⟩
      · rw [← hcovered]
        simp [Segment.text]
      · exact hcuts.bare_gap (u := a) (v := b) (c := c) rfl (by simpa using hr)

/-- **A character with which a match begins wherever it stands is not left.** -/
theorem not_mem_text {k : SpanClass} (hrule : rule.emitter = .wrap k) {t u : Text}
    (hu : .text u ∈ merge (rule.onText t)) {c : Char}
    (hmatch : ∀ x v, t = x ++ c :: v →
      ∃ r, rule.pattern.body.matchAt? x.getLast? (c :: v) = some r ∧ r.taken ≠ []) : c ∉ u := by
  intro hc
  obtain ⟨x, v, ht, hbare⟩ := exists_of_mem_text hrule hu hc
  obtain ⟨r, hr, hne⟩ := hmatch x v ht
  exact hne (hbare r hr)

end Rule

end CodeMarkup
