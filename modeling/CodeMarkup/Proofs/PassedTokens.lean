import CodeMarkup.Proofs.Spans

/-!
# Tokens that rules pass over

A language may leave its tokens to the last rule, and let each rule before it pass over them: of a
token such a rule makes the text that it is, so that nothing in it is taken for something else
(`CodeMarkup.Rule.PassesOver`). But then every rule scans for tokens anew, and it scans texts that the
rules before it have cut. What has to be seen is that **all the scans find the same tokens**
(`CodeMarkup.RuleSet.filter_spansFrom_apply_passing`).

The danger is in what is *not* a token. Where none begins the scan goes on with the next character,
and whether one begins there may hang on anything that comes later. So a text is judged with what
stands behind it (`CodeMarkup.Text.Scanned`): a scan over both comes to the place between them. If
tokens are told by their own characters (`CodeMarkup.Text.IsLocal`), what stands behind a text can
then be left out, for no token begins in the text on its own that did not begin in it before. A rule
that passes over tokens cuts a text at such places only (`CodeMarkup.Piece.CutAlong`), and cutting
and putting together again change nothing at them (`CodeMarkup.Piece.CutAlong.scanTexts_eq`,
`CodeMarkup.Piece.cutAlong_merge`).
-/

namespace CodeMarkup

variable {token? : Text → Option (SpanClass × Text)}

namespace Text

/-! ### Scanning a text before another one -/

/-- **Tokens are told by their own characters**: whatever stands behind a token, it is the token
there. -/
structure IsLocal (token? : Text → Option (SpanClass × Text)) : Prop where
  /-- A token takes something. -/
  ne_nil : ∀ {s k x}, token? s = some (k, x) → x ≠ []
  /-- A text begins with its token. -/
  exists_append : ∀ {s k x}, token? s = some (k, x) → ∃ t, s = x ++ t
  /-- What stands behind does not matter. -/
  congr : ∀ {k x t}, token? (x ++ t) = some (k, x) → ∀ u, token? (x ++ u) = some (k, x)

/-- Whether no token begins with a character. -/
def IsFree (token? : Text → Option (SpanClass × Text)) (c : Char) : Prop :=
  ∀ t, token? (c :: t) = none

/-- **A scan of `s` and `t` comes to the place between them**, with no token across it. -/
inductive Scanned (token? : Text → Option (SpanClass × Text)) : Text → Text → Prop where
  /-- The scan begins there. -/
  | nil (t : Text) : Scanned token? [] t
  /-- No token begins, in view of all that comes. -/
  | char {c : Char} {s t : Text} (h : token? (c :: (s ++ t)) = none) (hs : Scanned token? s t) :
      Scanned token? (c :: s) t
  /-- A token begins, and ends before `t`. -/
  | token {k : SpanClass} {x s t : Text} (h : token? (x ++ (s ++ t)) = some (k, x))
      (hs : Scanned token? s t) : Scanned token? (x ++ s) t

variable {s t u x : Text} {n : Nat}

theorem IsLocal.append (hl : IsLocal token?) {k : SpanClass} (h : token? s = some (k, x))
    (t : Text) : token? (s ++ t) = some (k, x) := by
  obtain ⟨u, rfl⟩ := hl.exists_append h
  rw [List.append_assoc]
  exact hl.congr h _

/-- No token begins in a text on its own that does not begin in it before another one. -/
theorem IsLocal.eq_none_of_append (hl : IsLocal token?) (h : token? (s ++ t) = none) :
    token? s = none := by
  cases hs : token? s with
  | none => rfl
  | some found =>
    rw [hl.append hs t] at h
    cases h

theorem scanFrom_of_eq_none {c : Char} (h : token? (c :: t) = none) :
    scanFrom token? n (c :: t) = scanFrom token? (n + 1) t := by
  rw [scanFrom, h]

theorem scanFrom_token (hl : IsLocal token?) {k : SpanClass} (h : token? (x ++ t) = some (k, x)) :
    scanFrom token? n (x ++ t) = ⟨n, k, x⟩ :: scanFrom token? (n + x.length) t := by
  obtain ⟨c, y, rfl⟩ := List.exists_cons_of_ne_nil (hl.ne_nil h)
  rw [List.cons_append] at h ⊢
  rw [scanFrom, h]
  simp

/-- **A text that has been scanned gives its tokens on its own**, and the scan goes on behind it. -/
theorem Scanned.scanFrom_append (hl : IsLocal token?) (h : Scanned token? s t) (n : Nat) :
    scanFrom token? n (s ++ t) = scanFrom token? n s ++ scanFrom token? (n + s.length) t := by
  induction h generalizing n with
  | nil => simp [scanFrom]
  | @char c s t hc _ ih =>
    have halone : token? (c :: s) = none := hl.eq_none_of_append (t := t) hc
    rw [List.cons_append, scanFrom_of_eq_none hc, scanFrom_of_eq_none halone, ih,
      List.length_cons]
    congr 2
    omega
  | @token k x s t hx _ ih =>
    rw [List.append_assoc, scanFrom_token hl hx, scanFrom_token hl (hl.congr hx s), ih,
      List.cons_append, List.length_append, Nat.add_assoc]

theorem Scanned.append (hs : Scanned token? s (t ++ u)) (ht : Scanned token? t u) :
    Scanned token? (s ++ t) u := by
  generalize hv : t ++ u = v at hs
  induction hs with
  | nil => exact ht
  | char hc _ ih =>
    subst hv
    rw [← List.append_assoc] at hc
    exact .char hc (ih rfl)
  | @token k x s _ hx _ ih =>
    subst hv
    rw [← List.append_assoc s] at hx
    rw [List.append_assoc]
    exact .token hx (ih rfl)

/-- A text of characters with which no token begins is scanned, whatever comes behind it. -/
theorem scanned_of_isFree (h : ∀ c ∈ s, IsFree token? c) (t : Text) : Scanned token? s t := by
  induction s with
  | nil => exact .nil t
  | cons c s ih =>
    obtain ⟨hc, hs⟩ := List.forall_mem_cons.1 h
    exact .char (hc _) (ih hs)

theorem scanFrom_of_isFree (h : ∀ c ∈ s, IsFree token? c) (n : Nat) : scanFrom token? n s = [] := by
  induction s generalizing n with
  | nil => rw [scanFrom]
  | cons c s ih =>
    obtain ⟨hc, hs⟩ := List.forall_mem_cons.1 h
    rw [scanFrom_of_eq_none (hc s), ih hs]

end Text

open Text

namespace Piece

/-! ### Documents that are cut along a scan -/

/-- **A document is cut along a scan** of what it holds: the scan comes to the end of each piece, and
no token begins in a sealed one. -/
def CutAlong (token? : Text → Option (SpanClass × Text)) : List Piece → Prop
  | [] => True
  | p :: ps => Scanned token? p.content (contents ps) ∧
      (¬p.IsText → ∀ c ∈ p.content, IsFree token? c) ∧ CutAlong token? ps

/-- The tokens of the texts of a document, each of them scanned on its own, where `n` characters
stand before the document. -/
def scanTexts (token? : Text → Option (SpanClass × Text)) (n : Nat) : List Piece → List PlacedSpan
  | [] => []
  | .text t :: ps => scanFrom token? n t ++ scanTexts token? (n + t.length) ps
  | p :: ps => scanTexts token? (n + p.content.length) ps

variable {p : Piece} {ps qs : List Piece} {n : Nat}

/-- **The texts of a document that is cut along a scan have the tokens of the scan.** -/
theorem CutAlong.scanTexts_eq (hl : IsLocal token?) (h : CutAlong token? ps) (n : Nat) :
    scanTexts token? n ps = scanFrom token? n (contents ps) := by
  induction ps generalizing n with
  | nil => simp [scanTexts, scanFrom]
  | cons p ps ih =>
    obtain ⟨hscan, hsealed, hps⟩ := h
    rw [contents_cons, hscan.scanFrom_append hl, ← ih hps]
    cases p with
    | text t => rfl
    | span k t =>
      rw [scanFrom_of_isFree (hsealed fun h => h)]
      rfl
    | markup t =>
      rw [scanFrom_of_isFree (hsealed fun h => h)]
      rfl

theorem CutAlong.cons (h : CutAlong token? (p :: ps)) : CutAlong token? (Piece.cons p ps) := by
  obtain ⟨hscan, hsealed, hps⟩ := h
  cases p with
  | text t =>
    rcases cons_text t ps with ⟨he, -⟩ | ⟨u, qs, rfl, he⟩ | he
    · rwa [he]
    · obtain ⟨hu, -, hqs⟩ := hps
      rw [he]
      exact ⟨hscan.append hu, fun hn => absurd trivial hn, hqs⟩
    · rw [he]
      exact ⟨hscan, hsealed, hps⟩
  | span | markup => exact ⟨hscan, hsealed, hps⟩

/-- **The normal form is cut along the scan** if the pieces are. -/
theorem cutAlong_merge (h : CutAlong token? ps) : CutAlong token? (merge ps) := by
  induction ps with
  | nil => exact h
  | cons p ps ih =>
    obtain ⟨hscan, hsealed, hps⟩ := h
    refine CutAlong.cons ⟨?_, hsealed, ih hps⟩
    rwa [show contents (List.foldr Piece.cons [] ps) = contents ps from contents_merge ps]

/-- Pieces in which no token begins may come before a document. -/
theorem CutAlong.append_left (hps : ∀ p ∈ ps, ∀ c ∈ p.content, IsFree token? c)
    (h : CutAlong token? qs) : CutAlong token? (ps ++ qs) := by
  induction ps with
  | nil => exact h
  | cons p ps ih =>
    obtain ⟨hp, hps⟩ := List.forall_mem_cons.1 hps
    exact ⟨scanned_of_isFree hp _, fun _ => hp, ih hps⟩

end Piece

open Piece Regex

/-! ### Rules that pass over tokens -/

/-- A character of a gap comes before what is made of the segments. -/
theorem Piece.cutAlong_consGap {rule : Rule} {t : Text} {n : Nat} {c : Char} {ss : List Segment}
    (hc : token? (c :: contents (rule.onSegments t (n + 1) ss)) = none)
    (h : CutAlong token? (rule.onSegments t (n + 1) ss)) :
    CutAlong token? (rule.onSegments t n (Segment.consGap c ss)) := by
  rcases rule.onSegments_consGap t n c ss with ⟨u, ps, hss, hgap⟩ | hgap
  · rw [hss] at h hc
    obtain ⟨hscan, -, hps⟩ := h
    rw [hgap]
    exact ⟨.char hc hscan, fun hn => absurd trivial hn, hps⟩
  · rw [hgap]
    exact ⟨.char hc (.nil _), fun hn => absurd trivial hn, h⟩

namespace Rule

/-- **That a rule passes over tokens**: a token is its best match at the same place and stays text,
and where no token begins, none begins with a character of the match. -/
structure PassesOver (rule : Rule) (token? : Text → Option (SpanClass × Text)) : Prop where
  /-- What it makes of a token. -/
  token : ∀ prev {c t k x}, token? (c :: t) = some (k, x) →
    ∃ r, rule.pattern.body.matchAt? prev (c :: t) = some r ∧ r.taken = x ∧
      ∀ u n, rule.emitter.emit ⟨u, n, r⟩ = [.text x]
  /-- What it matches where no token begins. -/
  free : ∀ prev {c t r}, token? (c :: t) = none →
    rule.pattern.body.matchAt? prev (c :: t) = some r → ∀ d ∈ r.taken, IsFree token? d

variable {rule : Rule}

/-- **A rule that passes over tokens cuts a text along the scan.** -/
theorem PassesOver.cutAlong_segmentsFrom (h : rule.PassesOver token?) (hs : rule.Spells)
    (hl : IsLocal token?) (u : Text) (n : Nat) (prev : Option Char) (t : Text) :
    CutAlong token? (rule.onSegments u n (rule.pattern.body.segmentsFrom prev t)) := by
  -- What the segments behind a place hold is the text there.
  have hcontents : ∀ n prev t,
      contents (rule.onSegments u n (rule.pattern.body.segmentsFrom prev t)) = t := by
    intro n prev t
    obtain ⟨hcut, hcov⟩ := rule.pattern.body.cuts_segmentsFrom prev t
    exact (hs.onSegments hcut u n).1.trans hcov
  induction prev, t using rule.pattern.body.scan_induction generalizing n with
  | nil prev => exact trivial
  | hit prev r t hr hne ih =>
    obtain ⟨c, y, hy⟩ := List.exists_cons_of_ne_nil hne
    have htext : r.taken ++ t = c :: (y ++ t) := by rw [hy, List.cons_append]
    rw [Marked.segmentsFrom_hit hr hne, onSegments_cons, onSegment]
    rw [htext] at hr
    cases htok : token? (c :: (y ++ t)) with
    | none =>
      refine CutAlong.append_left (fun p hp d hd => ?_) (ih _)
      have hmem : d ∈ contents (rule.emitter.emit ⟨u, n, r⟩) := List.mem_flatMap.2 ⟨p, hp, hd⟩
      rw [(hs prev _ ⟨u, n, r⟩ hr hne).1] at hmem
      exact h.free prev htok hr d hmem
    | some found =>
      obtain ⟨k, x⟩ := found
      obtain ⟨r', hr', rfl, hemit⟩ := h.token prev htok
      obtain rfl : r = r' := Option.some.inj (hr.symm.trans hr')
      rw [hemit]
      refine ⟨?_, fun hn => absurd trivial hn, ih _⟩
      rw [← htext] at htok
      have hscan : Scanned token? (r.taken ++ []) t := .token htok (.nil t)
      rwa [List.append_nil, ← hcontents (n + r.taken.length) r.taken.getLast? t] at hscan
  | gap prev c t hnone ih =>
    have htok : token? (c :: t) = none := by
      refine Option.eq_none_iff_forall_ne_some.2 fun found hfound => ?_
      obtain ⟨r, hr, htaken, -⟩ := h.token prev hfound
      exact hl.ne_nil hfound (htaken ▸ hnone r hr)
    rw [Marked.segmentsFrom_cons hnone]
    refine cutAlong_consGap ?_ (ih _)
    rwa [hcontents]

/-- **All texts that such a rule leaves have, together, the tokens of the text.** -/
theorem PassesOver.scanTexts_onPieces (h : rule.PassesOver token?) (hs : rule.Spells)
    (hl : IsLocal token?) (n : Nat) (t : Text) :
    scanTexts token? n (rule.onPieces [.text t]) = scanFrom token? n t := by
  have hcut : CutAlong token? (rule.onPieces [.text t]) := by
    rw [onPieces, List.flatMap_singleton]
    exact cutAlong_merge (h.cutAlong_segmentsFrom hs hl t 0 none t)
  rw [hcut.scanTexts_eq hl, hs.contents_onPieces]
  exact congrArg _ (List.append_nil t)

end Rule

/-! ### Rules that leave the tokens to the last one -/

namespace RuleSet

variable {set : RuleSet} {K : SpanClass → Bool}

/-- If rules make of each text its tokens, and other spans of classes not in `K`, they make of a
document the tokens of its texts. -/
theorem filter_spansFrom_flatMap_eq_scanTexts (hs : set.Spells)
    (hset : ∀ n t, (spansFrom n (set.apply t)).filter (fun s => K s.kind) = scanFrom token? n t)
    {ps : List Piece} (hps : ∀ k t, .span k t ∈ ps → K k = false) (n : Nat) :
    (spansFrom n (ps.flatMap set.onPiece)).filter (fun s => K s.kind) = scanTexts token? n ps := by
  induction ps generalizing n with
  | nil => rfl
  | cons p ps ih =>
    have ih := ih fun k t h => hps k t (List.mem_cons_of_mem _ h)
    rw [List.flatMap_cons, spansFrom_append, List.filter_append, ih]
    cases p with
    | text t =>
      rw [onPiece, hset, contents_apply hs]
      rfl
    | span k t =>
      have hk : K k = false := hps k t List.mem_cons_self
      simp [onPiece, spansFrom, scanTexts, hk, content]
    | markup t => simp [onPiece, spansFrom, scanTexts, content]

/-- **The last rule takes the tokens of the text**, if all rules before it pass over them: how they
cut the text does not matter. -/
theorem filter_spansFrom_apply_passing (hl : IsLocal token?) (passing : List Rule) {last : Rule}
    (hpass : ∀ rule ∈ passing, rule.PassesOver token? ∧ rule.Spells ∧
      rule.MakesOnly fun k => K k = false)
    (hlast : last.Scans token? ∧ last.Spells ∧ last.MakesOnly fun k => K k) (name : String)
    (n : Nat) (t : Text) :
    (spansFrom n (apply ⟨name, passing ++ [last]⟩ t)).filter (fun s => K s.kind) =
      scanFrom token? n t := by
  induction passing generalizing n t with
  | nil =>
    obtain ⟨hscans, -, hK⟩ := hlast
    have hone : apply ⟨name, [last]⟩ t = merge (last.onText t) := by
      change merge ([Piece.text t].flatMap last.onPiece) = _
      rw [List.flatMap_singleton]
      rfl
    rw [List.nil_append, hone, spansFrom_merge, ← hscans.spansFrom_onText, List.filter_eq_self]
    exact fun s hs => hK.onText (span_mem_of_mem_spansFrom hs)
  | cons rule passing ih =>
    obtain ⟨⟨hover, hspells, hK⟩, hrest⟩ := List.forall_mem_cons.1 hpass
    have hset : Spells ⟨name, passing ++ [last]⟩ := by
      intro r hr
      rcases List.mem_append.1 hr with hr | hr
      · exact (hrest r hr).2.1
      · rw [List.mem_singleton.1 hr]
        exact hlast.2.1
    rw [apply, List.cons_append, List.foldl_cons,
      foldl_onPieces_eq_flatMap name (passing ++ [last]) (rule.apart_onPieces _),
      filter_spansFrom_flatMap_eq_scanTexts hset (ih hrest) (hK.onPieces (by simp)),
      hover.scanTexts_onPieces hspells hl]

end RuleSet

end CodeMarkup
