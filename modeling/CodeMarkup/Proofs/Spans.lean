import CodeMarkup.Proofs.Locality

/-!
# The places of spans

What a reader of a document sees of its pieces are the spans, each at its place in the text
(`CodeMarkup.Piece.spansFrom`): how the texts between them are cut does not matter, so the places
stay when pieces are brought into their normal form (`CodeMarkup.Piece.spansFrom_merge`), and
spans stand one behind the other (`CodeMarkup.Piece.pairwise_spansFrom`).

**What later rules add are spans of their own classes only.** They work on each text on its own and
spell it out, so the spans of all other classes stay, and at their places
(`CodeMarkup.RuleSet.filter_spansFrom_apply`): these are the spans of the first rule.

And the spans of one rule are **the tokens of a scan from left to right**
(`CodeMarkup.Text.scanFrom`), if its best match at each place is told by the text behind the place
alone (`CodeMarkup.Rule.Scans.spansFrom_onText`).
-/

namespace CodeMarkup

/-- A span at its place. -/
structure PlacedSpan where
  /-- How many characters stand before the span. -/
  place : Nat
  /-- The class of the span. -/
  kind : SpanClass
  /-- What the span holds. -/
  text : Text
  deriving DecidableEq, Repr

/-- That one of two spans ends before the other one begins. -/
def PlacedSpan.Clear (s s' : PlacedSpan) : Prop :=
  s.place + s.text.length ≤ s'.place ∨ s'.place + s'.text.length ≤ s.place

instance : Std.Symm PlacedSpan.Clear := ⟨fun _ _ h => h.symm⟩

namespace Piece

/-- The spans of a document with their places, where `n` characters stand before it. -/
def spansFrom (n : Nat) : List Piece → List PlacedSpan
  | [] => []
  | .span k t :: ps => ⟨n, k, t⟩ :: spansFrom (n + t.length) ps
  | p :: ps => spansFrom (n + p.content.length) ps

variable {n : Nat}

theorem spansFrom_append (ps qs : List Piece) :
    spansFrom n (ps ++ qs) = spansFrom n ps ++ spansFrom (n + (contents ps).length) qs := by
  induction ps generalizing n with
  | nil => rfl
  | cons p ps ih => cases p <;> simp [spansFrom, ih, content, Nat.add_assoc]

theorem spansFrom_cons (p : Piece) (ps : List Piece) :
    spansFrom n (cons p ps) = spansFrom n (p :: ps) := by
  cases p with
  | text t =>
    rcases cons_text t ps with ⟨h, rfl⟩ | ⟨u, qs, rfl, h⟩ | h
    · simp [h, spansFrom, content]
    · simp [h, spansFrom, content, Nat.add_assoc]
    · rw [h]
  | span | markup => rfl

/-- **The normal form has the spans that the pieces have**, at their places. -/
theorem spansFrom_merge (ps : List Piece) : spansFrom n (merge ps) = spansFrom n ps := by
  induction ps generalizing n with
  | nil => rfl
  | cons p ps ih =>
    change spansFrom n (cons p (merge ps)) = _
    rw [spansFrom_cons]
    cases p <;> simp [spansFrom, ih]

/-- A span at its place is a span of the document. -/
theorem span_mem_of_mem_spansFrom {ps : List Piece} {s : PlacedSpan} (h : s ∈ spansFrom n ps) :
    .span s.kind s.text ∈ ps := by
  induction ps generalizing n with
  | nil => cases h
  | cons p ps ih =>
    cases p with
    | span k t =>
      rcases List.mem_cons.1 h with rfl | h
      · exact List.mem_cons_self
      · exact List.mem_cons_of_mem _ (ih h)
    | text | markup => exact List.mem_cons_of_mem _ (ih h)

theorem le_place_of_mem_spansFrom {ps : List Piece} {s : PlacedSpan} (h : s ∈ spansFrom n ps) :
    n ≤ s.place := by
  induction ps generalizing n with
  | nil => cases h
  | cons p ps ih =>
    cases p with
    | span k t =>
      rcases List.mem_cons.1 h with rfl | h
      · exact le_rfl
      · exact (Nat.le_add_right ..).trans (ih h)
    | text | markup => exact (Nat.le_add_right ..).trans (ih h)

/-- **Spans stand one behind the other.** -/
theorem pairwise_spansFrom (n : Nat) (ps : List Piece) :
    (spansFrom n ps).Pairwise fun s s' => s.place + s.text.length ≤ s'.place := by
  induction ps generalizing n with
  | nil => exact .nil
  | cons p ps ih =>
    cases p with
    | span k t => exact List.pairwise_cons.2 ⟨fun s => le_place_of_mem_spansFrom, ih _⟩
    | text | markup => exact ih _

/-- Two spans of a document have no character in common. -/
theorem clear_of_mem_spansFrom {ps : List Piece} {s s' : PlacedSpan} (hs : s ∈ spansFrom n ps)
    (hs' : s' ∈ spansFrom n ps) (hne : s ≠ s') : s.Clear s' := by
  have hclear : (spansFrom n ps).Pairwise PlacedSpan.Clear :=
    (pairwise_spansFrom n ps).imp fun h => .inl h
  exact hclear.forall hs hs' hne

end Piece

open Piece Regex

/-! ### The classes of the spans that rules make -/

/-- That a rule makes spans of the classes `K` only, whatever it is given. -/
def Rule.MakesOnly (rule : Rule) (K : SpanClass → Prop) : Prop :=
  ∀ m k t, .span k t ∈ rule.emitter.emit m → K k

theorem Rule.makesOnly_wrap {rule : Rule} {k : SpanClass} {K : SpanClass → Prop} (h : K k)
    (hrule : rule.emitter = .wrap k) : rule.MakesOnly K := by
  intro m k' t hmem
  rw [hrule] at hmem
  obtain ⟨rfl, -⟩ : k' = k ∧ t = m.run.taken := by simpa [Emitter.emit] using hmem
  exact h

theorem Rule.MakesOnly.mono {rule : Rule} {K K' : SpanClass → Prop} (h : rule.MakesOnly K)
    (hK : ∀ k, K k → K' k) : rule.MakesOnly K' := fun m k t hmem => hK k (h m k t hmem)

/-- No span of another class is made. -/
theorem Rule.MakesOnly.ne {rule : Rule} {K : SpanClass → Prop} (h : rule.MakesOnly K) {k : SpanClass}
    (hk : ¬K k) : rule.MakesOnly fun j => j ≠ k :=
  h.mono fun _ hj heq => hk (heq ▸ hj)

theorem Rule.MakesOnly.onText {rule : Rule} {K : SpanClass → Prop} (h : rule.MakesOnly K)
    {k : SpanClass} {t u : Text} (hmem : .span k u ∈ rule.onText t) : K k := by
  obtain ⟨s, -, n, hs⟩ := Rule.exists_of_mem_onSegments hmem
  cases s with
  | gap => simp [Rule.onSegment] at hs
  | hit r => exact h ⟨t, n, r⟩ k u hs

theorem Rule.MakesOnly.onPieces {rule : Rule} {K : SpanClass → Prop} (h : rule.MakesOnly K)
    {ps : List Piece} (hps : ∀ k t, .span k t ∈ ps → K k) :
    ∀ k t, .span k t ∈ rule.onPieces ps → K k := by
  -- As a property of pieces, since what is brought into the normal form has it if all pieces have.
  have hall : ∀ p ∈ rule.onPieces ps, ∀ k t, p = .span k t → K k := by
    refine forall_mem_merge (fun _ _ _ _ _ _ h => by cases h) fun q hq k t hqk => ?_
    subst hqk
    obtain ⟨p, hp, hq⟩ := List.mem_flatMap.1 hq
    cases p with
    | text u => exact h.onText hq
    | span | markup =>
      rw [← List.mem_singleton.1 hq] at hp
      exact hps k t hp
  exact fun k t hmem => hall _ hmem k t rfl

namespace RuleSet

variable {set : RuleSet} {K : SpanClass → Bool}

theorem kind_of_span_mem_apply {K : SpanClass → Prop} (h : ∀ rule ∈ set.rules, rule.MakesOnly K)
    (t : Text) : ∀ k u, .span k u ∈ set.apply t → K k :=
  apply_induction (I := fun ps => ∀ k u, .span k u ∈ ps → K k) (by simp)
    fun rule hrule _ hps => (h rule hrule).onPieces hps

/-- What rules make of pieces has the same spans of the classes that they do not make. -/
theorem filter_spansFrom_flatMap (hs : set.Spells)
    (hK : ∀ rule ∈ set.rules, rule.MakesOnly fun k => K k = false) (n : Nat) (ps : List Piece) :
    (spansFrom n (ps.flatMap set.onPiece)).filter (fun s => K s.kind) =
      (spansFrom n ps).filter fun s => K s.kind := by
  induction ps generalizing n with
  | nil => rfl
  | cons p ps ih =>
    rw [List.flatMap_cons, spansFrom_append, List.filter_append, ih]
    cases p with
    | text t =>
      have hnone : (spansFrom n (set.apply t)).filter (fun s => K s.kind) = [] := by
        refine List.filter_eq_nil_iff.2 fun s hmem => ?_
        simp [kind_of_span_mem_apply hK t _ _ (span_mem_of_mem_spansFrom hmem)]
      rw [onPiece, hnone, contents_apply hs]
      rfl
    | span k t => cases hk : K k <;> simp [onPiece, spansFrom, hk, content]
    | markup t => simp [onPiece, spansFrom, content]

/-- **Later rules leave the spans of other classes alone**: the spans of these classes are those
of the first rule. -/
theorem filter_spansFrom_apply {first : Rule} {rest : List Rule} (hset : set.rules = first :: rest)
    (hs : ∀ rule ∈ rest, rule.Spells) (hK : ∀ rule ∈ rest, rule.MakesOnly fun k => K k = false)
    (t : Text) :
    (spansFrom 0 (set.apply t)).filter (fun s => K s.kind) =
      (spansFrom 0 (first.onText t)).filter fun s => K s.kind := by
  have hone : first.onPieces [.text t] = merge (first.onText t) := by
    rw [Rule.onPieces, List.flatMap_singleton]
    rfl
  have hlater : Spells ⟨set.name, rest⟩ := hs
  rw [apply, hset, List.foldl_cons,
    foldl_onPieces_eq_flatMap set.name rest (first.apart_onPieces _),
    filter_spansFrom_flatMap hlater hK, hone, spansFrom_merge]

end RuleSet

/-! ### Scanning -/

/-- The tokens of a text in a scan from left to right, where `n` characters stand before the text:
a token that begins at a place is taken and the scan goes on behind it; where none begins
it goes on behind the next character. -/
def Text.scanFrom (token? : Text → Option (SpanClass × Text)) (n : Nat) : Text → List PlacedSpan
  | [] => []
  | c :: t =>
    match token? (c :: t) with
    | some (k, x) => ⟨n, k, x⟩ :: scanFrom token? (n + x.length) (t.drop (x.length - 1))
    | none => scanFrom token? (n + 1) t
termination_by t => t.length

theorem Piece.spansFrom_consGap (rule : Rule) (t : Text) (k n : Nat) (c : Char)
    (ss : List Segment) :
    spansFrom n (rule.onSegments t k (Segment.consGap c ss)) =
      spansFrom (n + 1) (rule.onSegments t (k + 1) ss) := by
  rcases rule.onSegments_consGap t k c ss with ⟨u, ps, hss, hgap⟩ | hgap
  · simp [hss, hgap, spansFrom, content, Nat.add_assoc, Nat.add_comm 1]
  · simp [hgap, spansFrom, content]

namespace Rule

variable {rule : Rule} {token? : Text → Option (SpanClass × Text)}

/-- That the best match of a rule is the token at the same place, whatever stands before it, and
becomes one span; and that tokens take something. -/
def Scans (rule : Rule) (token? : Text → Option (SpanClass × Text)) : Prop :=
  ∀ u n prev c t,
    (rule.pattern.body.matchAt? prev (c :: t)).map
        (fun r => (r.taken, rule.emitter.emit ⟨u, n, r⟩)) =
        (token? (c :: t)).map (fun s => (s.2, [.span s.1 s.2])) ∧
      ∀ k x, token? (c :: t) = some (k, x) → x ≠ []

theorem Scans.spansFrom_segmentsFrom (h : rule.Scans token?) (n : Nat) (u : Text) (k : Nat)
    (prev : Option Char) (t : Text) :
    spansFrom n (rule.onSegments u k (rule.pattern.body.segmentsFrom prev t)) =
      Text.scanFrom token? n t := by
  induction prev, t using rule.pattern.body.scan_induction generalizing n k with
  | nil prev =>
    rw [Text.scanFrom]
    rfl
  | hit prev r t hr hne ih =>
    obtain ⟨c, y, hy⟩ := List.exists_cons_of_ne_nil hne
    have htext : r.taken ++ t = c :: (y ++ t) := by rw [hy, List.cons_append]
    obtain ⟨hm, -⟩ := h u k prev c (y ++ t)
    rw [← htext, hr, Option.map_some, eq_comm, Option.map_eq_some_iff] at hm
    obtain ⟨⟨kind, x⟩, htok, heq⟩ := hm
    obtain ⟨rfl, hemit⟩ := Prod.mk.inj heq
    have hdrop : (y ++ t).drop (r.taken.length - 1) = t := by simp [hy]
    rw [Marked.segmentsFrom_hit hr hne, onSegments_cons, onSegment, ← hemit, htext,
      Text.scanFrom, ← htext, htok]
    dsimp only
    rw [hdrop, List.singleton_append, spansFrom, ih]
  | gap prev c t hnone ih =>
    obtain ⟨hm, htaken⟩ := h u k prev c t
    have htok : token? (c :: t) = none := by
      refine Option.eq_none_iff_forall_ne_some.2 fun found hfound => ?_
      rw [hfound, Option.map_some, Option.map_eq_some_iff] at hm
      obtain ⟨r, hr, heq⟩ := hm
      exact htaken _ _ hfound ((Prod.mk.inj heq).1 ▸ hnone r hr)
    rw [Text.scanFrom, htok, Marked.segmentsFrom_cons hnone, spansFrom_consGap, ih]

/-- **The spans of a rule whose matches are tokens are those of a scan from left to right.** -/
theorem Scans.spansFrom_onText (h : rule.Scans token?) (n : Nat) (t : Text) :
    spansFrom n (rule.onText t) = Text.scanFrom token? n t :=
  h.spansFrom_segmentsFrom n t 0 none t

end Rule

end CodeMarkup
