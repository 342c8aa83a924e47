import CodeMarkup.Proofs.Gaps
import CodeMarkup.Proofs.NormalForm
import CodeMarkup.Proofs.Regex.LongerTexts

/-!
# Nothing is left to find

A rule takes the matches out of a text, and what it leaves are the gaps between them. A gap is less
than the text, so a search of the gap is not the search of the text: a match that was preferred
may have no room any more, and another way through the expression comes to be the best one. Still,
**a rule that wraps its matches leaves nothing that it would find**, if its expression has no
assertions. For if a match took something in a gap, then one would take something at the same
place of the whole text (`CodeMarkup.Regex.Marked.exists_matchAt?_append`), and the scan would have
taken it.

That nothing is found (`CodeMarkup.Regex.Marked.FindsNothing`) is true of all parts of a
text if it is true of the text. So it stays true as long as rules only cut texts: after any
number of rules that wrap their matches the first of them still finds nothing
(`CodeMarkup.RuleSet.findsNothing_apply`), and to run it again changes nothing
(`CodeMarkup.RuleSet.nothing_left_to_find`). Emitters in general may return texts, and from these
a match may grow together.

With assertions all this fails, as the ends of a gap are taken for the ends of a text.
-/

namespace CodeMarkup

open Regex

namespace Regex

/-! ### Texts in which nothing is found -/

/-- That an expression finds nothing in a text: wherever in the text a match begins, it takes
nothing. -/
def Marked.FindsNothing (m : Marked) (t : Text) : Prop :=
  ∀ prev u v r, t = u ++ v → m.matchAt? prev v = some r → r.taken = []

variable {m : Marked} {re : Regex} {t g : Text}

/-- **Nothing is found in a part of a text** in which nothing is found. -/
theorem Marked.FindsNothing.of_append (hm : m.isBlind) {a b c : Text}
    (h : m.FindsNothing (a ++ b ++ c)) : m.FindsNothing b := by
  rintro prev u v r rfl hr
  by_contra hne
  obtain ⟨r', hr', hne'⟩ := exists_matchAt?_append hm hr hne prev c
  exact hne' (h prev (a ++ u) (v ++ c) r' (by simp) hr')

/-- A text in which nothing is found is one gap. -/
theorem Marked.FindsNothing.segmentsFrom (h : m.FindsNothing t) (ht : t ≠ []) (prev : Option Char) :
    m.segmentsFrom prev t = [.gap t] := by
  induction t generalizing prev with
  | nil => exact absurd rfl ht
  | cons c t ih =>
    rw [segmentsFrom_cons fun r hr => h prev [] (c :: t) r rfl hr]
    by_cases hnil : t = []
    · subst hnil
      rfl
    · have htail : m.FindsNothing t := fun p u v r huv hr => h p (c :: u) v r (by simp [huv]) hr
      rw [ih htail hnil]
      rfl

/-- **Nothing is found in a gap** once more. -/
theorem findsNothing_of_gap_mem (hm : re.body.isBlind) (hg : .gap g ∈ re.segments t) :
    re.body.FindsNothing g := by
  obtain ⟨pre, post, hss⟩ := List.append_of_mem hg
  have hcuts := cuts_segments re t
  rw [hss] at hcuts
  intro prev u v r hguv hr
  by_contra hne
  cases v with
  | nil => cases hr
  | cons c v =>
    obtain ⟨r', hr', hne'⟩ := Marked.exists_matchAt?_append hm hr hne
      ((Segment.covered pre ++ u).getLast?.or none) (Segment.covered post)
    exact hne' (hcuts.bare_gap hguv (by simpa using hr'))

end Regex

open Piece

namespace Rule

variable {rule : Rule} {k : SpanClass} {ps : List Piece}

/-! ### A rule that wraps its matches -/

/-- Gaps and wrapped matches are in their normal form from the start. -/
theorem isNormal_onSegments (hrule : rule.emitter = .wrap k) {prev : Option Char}
    {ss : List Segment} (hs : Cuts rule.pattern.body prev ss) (t : Text) (n : Nat) :
    IsNormal (rule.onSegments t n ss) := by
  have hhit : ∀ n r ss', rule.onSegments t n (.hit r :: ss') =
      .span k r.taken :: rule.onSegments t (n + r.taken.length) ss' := fun n r ss' => by
    rw [onSegments_cons, onSegment, hrule]
    rfl
  induction hs generalizing n with
  | nil => exact ⟨fun t ht => absurd ht List.not_mem_nil, .nil⟩
  | hit _ _ _ ih =>
    rw [hhit, isNormal_cons_iff]
    exact ⟨fun _ ht => Piece.noConfusion ht, fun _ _ hq => hq.1, ih _⟩
  | @gap _ g ss hg _ halone hs ih =>
    rw [onSegments_cons, onSegment, List.singleton_append, isNormal_cons_iff]
    refine ⟨fun u hu => Piece.text.inj hu ▸ hg, fun q hq hboth => ?_, ih _⟩
    -- Behind a gap there is nothing, or a match, which has become a span.
    cases hs with
    | nil => cases hq
    | hit =>
      rw [hhit, List.head?_cons, Option.mem_some_iff] at hq
      subst hq
      exact hboth.2
    | gap => exact halone _ _ rfl

/-- **The texts that are left are gaps.** -/
theorem gap_mem_of_text_mem (hrule : rule.emitter = .wrap k) {t u : Text}
    (hu : .text u ∈ merge (rule.onText t)) : .gap u ∈ rule.pattern.segments t := by
  have hnormal : IsNormal (rule.onText t) :=
    isNormal_onSegments hrule (cuts_segments rule.pattern t) t 0
  rw [hnormal.merge_eq] at hu
  obtain ⟨s, hs, n, hu⟩ := exists_of_mem_onSegments hu
  cases s with
  | hit r => simp [onSegment, hrule, Emitter.emit] at hu
  | gap g =>
    obtain rfl : u = g := by simpa [onSegment] using hu
    exact hs

/-- **The rule finds nothing in the texts that it has left.** -/
theorem findsNothing_onPieces (hrule : rule.emitter = .wrap k) (hblind : rule.pattern.body.isBlind)
    (hps : Apart ps) : ∀ u, .text u ∈ rule.onPieces ps → rule.pattern.body.FindsNothing u := by
  intro u hu
  obtain ⟨t, -, hu⟩ := exists_of_text_mem_onPieces hps hu
  exact findsNothing_of_gap_mem hblind (gap_mem_of_text_mem hrule hu)

/-- **Cutting texts makes nothing to find.** -/
theorem forall_findsNothing_onPieces {m : Marked} (hm : m.isBlind) (hrule : rule.emitter = .wrap k)
    (hps : Apart ps) (h : ∀ t, .text t ∈ ps → m.FindsNothing t) :
    ∀ u, .text u ∈ rule.onPieces ps → m.FindsNothing u := by
  intro u hu
  obtain ⟨t, ht, hu⟩ := exists_of_text_mem_onPieces hps hu
  obtain ⟨pre, post, hss⟩ := List.append_of_mem (gap_mem_of_text_mem hrule hu)
  have hcovered := covered_segments rule.pattern t
  rw [hss] at hcovered
  refine .of_append hm (a := Segment.covered pre) (c := Segment.covered post) ?_
  have htext : Segment.covered pre ++ u ++ Segment.covered post = t := by
    rw [← hcovered]
    simp [Segment.text]
  rw [htext]
  exact h t ht

/-- **A rule that finds nothing changes nothing**, whatever it would make of a match. -/
theorem onPieces_eq_self (hps : IsNormal ps)
    (h : ∀ t, .text t ∈ ps → rule.pattern.body.FindsNothing t) : rule.onPieces ps = ps := by
  have hpiece : ∀ p ∈ ps, rule.onPiece p = [p] := by
    intro p hp
    cases p with
    | text t =>
      have hgap : rule.pattern.segments t = [.gap t] := (h t hp).segmentsFrom (hps.ne_nil t hp) none
      rw [onPiece, onText, hgap]
      rfl
    | span | markup => rfl
  rw [onPieces, List.flatMap_congr hpiece, List.flatMap_singleton', hps.merge_eq]

end Rule

/-! ### Sets of rules -/

namespace RuleSet

variable {name : String} {rule : Rule} {later : List Rule}

/-- **After a rule, and after any rules behind it**, if all of them wrap their matches, the rule
finds nothing. -/
theorem findsNothing_apply (before : List Rule) (hwraps : Wraps ⟨name, rule :: later⟩)
    (hblind : rule.pattern.body.isBlind) (e : Text) :
    ∀ t, .text t ∈ apply ⟨name, before ++ rule :: later⟩ e → rule.pattern.body.FindsNothing t := by
  obtain ⟨⟨k, hrule⟩, hlater⟩ := List.forall_mem_cons.1 hwraps
  rw [apply_append, List.foldl_cons]
  refine (List.foldlRecOn (motive := fun ps => Apart ps ∧
    ∀ t, .text t ∈ ps → rule.pattern.body.FindsNothing t) later _ ⟨?_, ?_⟩ ?_).2
  · exact rule.apart_onPieces _
  · exact Rule.findsNothing_onPieces hrule hblind (apart_apply _ e)
  · rintro ps ⟨hps, h⟩ other hother
    obtain ⟨k', hk'⟩ := hlater other hother
    exact ⟨other.apart_onPieces ps, Rule.forall_findsNothing_onPieces hblind hk' hps h⟩

/-- **Nothing is left to find.** Take any rules, then a rule that wraps its matches and has no
assertions, and then any rules that wrap their matches. In no text that is left does the rule
find a match that takes something; and running the rule once more changes nothing, at once (where
`later` is empty) or later, whatever rules come behind. -/
theorem nothing_left_to_find (before : List Rule) (hwraps : Wraps ⟨name, rule :: later⟩)
    (hblind : rule.pattern.body.isBlind) (e : Text) :
    (∀ t, .text t ∈ apply ⟨name, before ++ rule :: later⟩ e →
        rule.pattern.segments t = [.gap t]) ∧
      ∀ behind, apply ⟨name, before ++ rule :: (later ++ rule :: behind)⟩ e =
        apply ⟨name, before ++ rule :: (later ++ behind)⟩ e := by
  have hnormal : IsNormal (apply ⟨name, before ++ rule :: later⟩ e) :=
    (normalForm_apply ⟨name, before ++ rule :: later⟩ e).1.2 (.inl (by simp))
  have hnothing := findsNothing_apply before hwraps hblind e
  refine ⟨fun t ht => (hnothing t ht).segmentsFrom (hnormal.ne_nil t ht) none, fun behind => ?_⟩
  have hstage : ∀ rest, apply ⟨name, before ++ rule :: (later ++ rest)⟩ e =
      rest.foldl (fun ps rule => rule.onPieces ps) (apply ⟨name, before ++ rule :: later⟩ e) :=
    fun rest => by rw [← apply_append, List.append_assoc, List.cons_append]
  have hagain : rule.onPieces (apply ⟨name, before ++ rule :: later⟩ e) =
      apply ⟨name, before ++ rule :: later⟩ e := Rule.onPieces_eq_self hnormal hnothing
  rw [hstage, hstage, List.foldl_cons, hagain]

end RuleSet

/-- A rule that wraps rows of one letter; elsewhere its matches take nothing. -/
def Rule.letterRows : Rule :=
  ⟨"rows", Language.pattern "x*" (Language.many (Language.char 'x')), .wrap .keyword⟩

/-- A rule that wraps digits. -/
def Rule.digits : Rule :=
  ⟨"digits", Language.pattern "[0-9]" (.one (.range '0' '9')), .wrap .number⟩

/-- A rule with an assertion, which wraps a letter at the start of a text. -/
def Rule.firstLetter : Rule :=
  ⟨"first", Language.pattern "^a" (Language.seq [.look .start, Language.char 'a']), .wrap .keyword⟩

namespace RuleSet

/-- The statement about what is left for these two rules. -/
theorem nothing_left_to_find_letterRows :
    Language.WrittenAs "x*" (Language.many (Language.char 'x')) ∧
      Wraps ⟨"test", [.letterRows, .digits]⟩ ∧ Rule.letterRows.pattern.body.isBlind ∧
        .text ['a'] ∈ apply ⟨"test", [.letterRows, .digits]⟩ "axx1xb".toList ∧
          Rule.letterRows.pattern.segments ['a'] = [.gap ['a']] ∧
            apply ⟨"test", [.letterRows, .digits, .letterRows]⟩ "axx1xb".toList =
              apply ⟨"test", [.letterRows, .digits]⟩ "axx1xb".toList := by
  have hwraps : Wraps ⟨"test", [.letterRows, .digits]⟩ := by
    simp [Wraps, Rule.letterRows, Rule.digits]
  have hwritten : Language.WrittenAs "x*" (Language.many (Language.char 'x')) := by rfl
  have hblind : Rule.letterRows.pattern.body.isBlind := Expr.isBlind_toMarked fun _ => rfl
  have hmem : .text ['a'] ∈ apply ⟨"test", [.letterRows, .digits]⟩ "axx1xb".toList := by decide
  have h := nothing_left_to_find [] hwraps hblind "axx1xb".toList
  exact ⟨hwritten, hwraps, hblind, hmem, h.1 ['a'] hmem, h.2 []⟩

-- With an assertion there is something left to find: what is left has a start of its own.
example : apply ⟨"test", [.firstLetter, .firstLetter]⟩ ['a', 'a'] ≠
    apply ⟨"test", [.firstLetter]⟩ ['a', 'a'] := by decide

end RuleSet

end CodeMarkup
