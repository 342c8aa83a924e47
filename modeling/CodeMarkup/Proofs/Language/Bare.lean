import CodeMarkup.Proofs.Language.Script
import CodeMarkup.Proofs.Words

/-!
# What a script leaves bare

What the rules of the script language do not seal stays text. Here it is shown what is not among
it: **in the texts that are left there are no brackets, no operators, no ampersands and no
reserved words** that stand by themselves. So all of these are wrapped wherever they stand in the
escaped text (`CodeMarkup.Language.nothing_recognisable_is_bare`).

Signs are simple. The rules of brackets and of operators take them wherever they stand, and the
last two rules leave no others behind. For an ampersand one has to know that the entity it begins
is still whole (`CodeMarkup.Language.keepsEntities_script`).

Words are not. The rule of reserved words comes second, each rule after it cuts the texts at new
places, and what ends a text counts as the edge of a word. So a word that was part of a longer one
could come to stand by itself. It does not (`CodeMarkup.Rule.Spares`): numbers begin and end at
boundaries, brackets and operators are no word characters, and the name of a type takes all there
is of a word (`CodeMarkup.Language.Script.betweenWords_type`). A call is different, since the name of
a function may begin in the middle of a word. But a reserved word right before the name would belong
to the name (`CodeMarkup.Language.Script.spares_call`): a call begins at the first letter it can.

Nor is a word wrapped because no text has it, for it could be in several pieces. But the
first two rules break no word: comments and strings begin and end with signs, or with the line
(`CodeMarkup.Language.Script.betweenWords_commentOrString`). So behind the second rule a reserved word
that stands by itself is in a span (`CodeMarkup.Language.Script.wrapped_keyword`), and there it
stays.
-/

namespace CodeMarkup.Language

open Regex Markup Piece

/-! ### Words between boundaries -/

/-- **A word between two boundaries is matched** where it stands by itself, or else something is
that is not empty. -/
theorem exists_matchAt?_bounded {e : Expr} (hp : (seq [boundary, e, boundary]).toMarked.plain)
    (hne : (seq [boundary, e, boundary]).nullable = false) (hblind : e.IsBlind) {x : Text}
    (hx : e.Takes x) (hlike : Text.IsWordlike x) {prev : Option Char} {v : Text}
    (hprev : isWordBeside false prev = false) (hv : isWordBeside false v.head? = false) :
    ∃ r, (seq [boundary, e, boundary]).toMarked.matchAt? prev (x ++ v) = some r ∧
      r.taken ≠ [] := by
  obtain ⟨u, hu, hchars⟩ := hx
  have hlook : ∀ a, .look a ∉ u := fun a ha => by
    simpa [hblind a] using Expr.allows_of_mem hu ha
  -- The way goes over a boundary, the word and another boundary.
  have hway : .look (.boundary false) :: (u ++ [.look (.boundary false)]) ∈
      (seq [boundary, e, boundary]).ways :=
    ⟨[.look (.boundary false)], rfl, _, ⟨u, hu, [.look (.boundary false)], rfl, rfl⟩, rfl⟩
  have htaken : Way.chars (.look (.boundary false) :: (u ++ [.look (.boundary false)])) = x := by
    rw [← hchars]
    exact (Way.chars_append u _).trans (List.append_nil _)
  have hleads : Way.Leads (.look (.boundary false) :: (u ++ [.look (.boundary false)])) prev
      (x ++ v) := by
    rw [← hchars]
    refine ⟨?_, Way.leads_append.2 ⟨Expr.leads_of_isBlind hlook _ _, ?_, trivial⟩⟩
    · have hhead : (x ++ v).head? = x.head? := by
        rw [List.head?_append, List.head?_eq_some_head hlike.ne_nil, Option.some_or]
      rw [hchars, hhead]
      simp [Look.holds, hprev, hlike.head]
    · rw [hchars, getLast?_or_of_ne_nil hlike.ne_nil]
      simp [Look.holds, hv, hlike.last]
  rw [← htaken] at hleads ⊢
  obtain ⟨r, hr⟩ := Marked.exists_matchAt? hp (Expr.ways_toMarked _ ▸ hway) hleads
    (by rw [htaken]; exact hlike.ne_nil)
  exact ⟨r, hr, (Expr.extends_of_matchAt? hr).takes.ne_nil hne⟩

namespace Script

variable {w : String}

/-! ### Names -/

/-- The characters that a name goes on with. -/
def nameSet : CharSet := .unionAll [.word, .single '$']

/-- The name of a type takes all the characters of a name that there are. -/
theorem taken_type {prev : Option Char} {c : Char} {t : Text} {r : Run}
    (h : typeExpr.toMarked.matchAt? prev (c :: t) = some r) :
    r.taken = c :: t.takeWhile nameSet.contains := by
  have hm : typeExpr.toMarked = .cat (.look (.boundary false))
      (.cat (.one (.range 'A' 'Z') none) (.many nameSet)) := rfl
  rw [Marked.matchAt?_eq_search (by decide), hm] at h
  have hmany := Marked.search_many nameSet (k := .arrive) (f := fun _ => .nil) (fun _ _ => rfl)
    (some c) t
  simp only [Marked.search, hmany] at h
  split at h
  · split at h
    · obtain rfl := Option.some.inj h
      simp [Run.taken_foldr_push, Run.nil]
    · cases h
  · cases h

theorem betweenWords_type : typeExpr.toMarked.BetweenWords where
  before h := Expr.isEdge_before (by rfl) h
  behind {prev r t} h hr := by
    obtain ⟨c, u, hcu⟩ := List.exists_cons_of_ne_nil hr
    rw [hcu, List.cons_append] at h
    have htaken := taken_type h
    rw [hcu, List.cons.injEq] at htaken
    rintro ⟨-, hn⟩
    cases t with
    | nil => cases hn
    | cons d t =>
      have hd : nameSet.contains d = false := Marked.not_of_eq_takeWhile htaken.2
      have hword : isWord d = false := (Bool.or_eq_false_iff.1 hd).1
      simp [isWordBeside, hword] at hn

/-- The characters that a name begins with. -/
def firstSet : CharSet := .unionAll [.range 'A' 'Z', .range 'a' 'z', .single '_', .single '$']

/-- A name goes on with the characters that it may begin with. -/
theorem nameSet_of_firstSet {c : Char} (h : firstSet.contains c) : nameSet.contains c := by
  have hletter : ('A' ≤ c ∧ c ≤ 'Z') ∨ ('a' ≤ c ∧ c ≤ 'z') → nameSet.contains c := fun h => by
    simp [nameSet, CharSet.unionAll, CharSet.contains, isWord_of_letter h]
  simp only [firstSet, CharSet.unionAll, CharSet.contains, Bool.or_eq_true, Bool.and_eq_true,
    decide_eq_true_eq, CharSet.contains_single] at h
  rcases h with h | h | rfl | rfl
  · exact hletter (.inl h)
  · exact hletter (.inr h)
  · decide
  · decide

/-- The letters of the reserved words are letters of names, and none of them is in what follows the
name in a call. -/
theorem letters_of_keywords : ∀ w ∈ keywords, w.toList ≠ [] ∧ ∀ c ∈ w.toList,
    isWord c ∧ firstSet.contains c ∧
      (seq [many (.one .space), char '(']).allows (.take c) = false := by
  have hall : keywords.all fun w => w.toList ≠ [] && w.toList.all fun c =>
      isWord c && (firstSet.contains c &&
        !(seq [many (.one .space), char '(']).allows (.take c)) := by decide
  simpa [List.all_eq_true] using hall

theorem isWordlike_of_mem_keywords (hw : w ∈ keywords) : Text.IsWordlike w.toList := by
  obtain ⟨hne, hletters⟩ := letters_of_keywords w hw
  constructor
  · rw [List.head?_eq_some_head hne]
    exact (hletters _ (List.head_mem hne)).1
  · rw [List.getLast?_eq_some_getLast hne]
    exact (hletters _ (List.getLast_mem hne)).1

/-- Behind a reserved word the name of a call goes on. -/
theorem takes_call_of_keyword (hw : w ∈ keywords) {x : Text} (h : callExpr.Takes x) :
    callExpr.Takes (w.toList ++ x) := by
  obtain ⟨y, z, hy, hz, rfl⟩ := Expr.takes_cat.1 h
  obtain ⟨_, y', hfirst, hy', rfl⟩ := Expr.takes_cat.1 (Expr.takes_group.1 hy)
  obtain ⟨c, hc, rfl⟩ : ∃ c, firstSet.contains c ∧ _ = [c] := Expr.takes_one.1 hfirst
  obtain ⟨hne, hletters⟩ := letters_of_keywords w hw
  obtain ⟨d, w', hdw⟩ := List.exists_cons_of_ne_nil hne
  rw [hdw] at hletters ⊢
  have hname : (many nameChar).Takes (w' ++ ([c] ++ y')) := by
    refine takes_many_one.2 fun b hb => ?_
    rcases List.mem_append.1 hb with hb | hb
    · exact nameSet_of_firstSet (hletters b (List.mem_cons_of_mem _ hb)).2.1
    · rcases List.mem_cons.1 hb with rfl | hb
      · exact nameSet_of_firstSet hc
      · exact takes_many_one.1 hy' b hb
  refine Expr.takes_cat.2 ⟨d :: (w' ++ ([c] ++ y')), z, Expr.takes_group.2 (Expr.takes_cat.2
    ⟨[d], _, Expr.takes_one.2 ⟨d, (hletters d (by simp)).2.1, rfl⟩, hname, rfl⟩), hz, by simp⟩

/-- **The rule of calls** sets no reserved word free: one that stands right before a name belongs to
the name. -/
theorem spares_call (hw : w ∈ keywords) : callRule.Spares w.toList where
  pattern :=
    { before := by
        intro r t h _
        refine .inr fun prev => ?_
        have htakes := takes_call_of_keyword hw (Expr.extends_of_matchAt? h).takes
        rw [← List.append_assoc]
        exact htakes.exists_matchAt? (by decide) (fun _ => rfl) (by rfl) prev t
      behind := fun h hr => Expr.isEdge_behind (by rfl) h hr }
  emits := by
    rintro prev t ⟨_, _, r⟩ h _
    have hext : callExpr.Extends .nil r := Expr.extends_of_matchAt? h
    obtain ⟨x, y, rfl, -, hy⟩ := run_of_groups hext (fun _ => ⟨rfl, rfl⟩) fun _ => ⟨rfl, rfl⟩
    refine ⟨.span .function x, [.text y], emitCall_run x y, fun h => h, fun u hu c hc hcw => ?_⟩
    obtain rfl := Piece.text.inj (List.mem_singleton.1 hu)
    exact hy.not_mem ((letters_of_keywords w hw).2 c hcw).2.2 hc

/-! ### Reserved words -/

/-- What is made of a comment or of a string is one span. -/
theorem makesOne_commentOrString : commentOrStringRule.MakesOne := fun _ => ⟨_, rfl, rfl⟩

/-- **Comments and strings stand between words**: they begin and end with signs, or with the line. -/
theorem betweenWords_commentOrString : commentOrStringExpr.toMarked.BetweenWords where
  before h := Expr.isEdge_before (by rfl) h
  behind {prev r t} h hr := by
    obtain ⟨w, hw, hleads, hrun⟩ := Marked.reads_matchAt? h
    have hchars : r.taken = Way.chars w := by rw [← hrun, Way.taken_run]
    rw [hchars] at hleads ⊢
    have hends : ∀ {e : Expr}, e.closesAtEdge → w ∈ e.ways →
        IsEdge (Way.chars w).getLast? t.head? := fun he hw => by
      rw [← getLast?_or_of_ne_nil (hchars ▸ hr) prev]
      exact Expr.isEdge_end he hw hleads
    rcases Expr.ways_toMarked commentOrStringExpr ▸ hw with hcomment | hstring
    · obtain ⟨v, hline | hblock, hwv, hv⟩ := Expr.mem_ways_group hcomment
      · -- Behind the comment the text ends, or the line.
        obtain ⟨y, hy⟩ := takes_lineComment ⟨v, hline, rfl⟩
        have htaken : r.taken = '/' :: '/' :: y := by rw [hchars, hv, hy]
        rw [htaken] at h
        rcases behind_lineComment h htaken with rfl | ⟨t, rfl⟩
        · simp [IsEdge, isWordBeside]
        · have hfeed : isWord '\n' = false := by decide
          simp [IsEdge, isWordBeside, hfeed]
      · refine hends (e := .group 1 blockComment) (by rfl) ?_
        rw [hwv]
        exact ⟨[.opens 1], rfl, _, ⟨v, hblock, [.closes 1], rfl, rfl⟩, rfl⟩
    · exact hends (e := .group 2 stringExpr) (by rfl) hstring

theorem betweenWords_keyword : keywordExpr.toMarked.BetweenWords :=
  Expr.betweenWords (by rfl) (by rfl)

/-- The rules behind that of reserved words set none free. -/
theorem spares_rest (hw : w ∈ keywords) : ∀ rule ∈ script.rules.drop 2, rule.Spares w.toList := by
  simp only [script, List.drop_succ_cons, List.drop_zero, List.forall_mem_cons]
  exact ⟨Rule.spares_wrap rfl (Expr.betweenWords (by rfl) (by rfl)) _,
    Rule.spares_wrap rfl betweenWords_type _, spares_call hw,
    Rule.spares_wrap rfl (Expr.betweenWords (by rfl) (by rfl)) _,
    Rule.spares_wrap rfl (Expr.betweenWords (by rfl) (by rfl)) _, by simp⟩

/-- **A reserved word that stands by itself is matched.** -/
theorem exists_matchAt?_keyword (hw : w ∈ keywords) {prev : Option Char} {v : Text}
    (hprev : isWordBeside false prev = false) (hv : isWordBeside false v.head? = false) :
    ∃ r, keywordExpr.toMarked.matchAt? prev (w.toList ++ v) = some r ∧ r.taken ≠ [] := by
  have htakes := takes_of_mem_either (List.mem_map_of_mem hw) (takes_word w)
  exact exists_matchAt?_bounded (by decide) (by rfl) (fun _ => rfl) htakes
    (isWordlike_of_mem_keywords hw) hprev hv

/-- **The rule of reserved words leaves none** that stands by itself. -/
theorem not_standsIn_onPieces_keyword (hw : w ∈ keywords) {ps : List Piece} (hps : Apart ps)
    {t : Text} (ht : .text t ∈ keywordRule.onPieces ps) : ¬Text.StandsIn w.toList t := by
  intro hs
  have hspares : keywordRule.Spares w.toList := Rule.spares_wrap rfl betweenWords_keyword _
  obtain ⟨u, -, hu⟩ := Rule.exists_of_text_mem_onPieces hps ht
  obtain ⟨x, v, -, hx, hv, hbare⟩ :=
    hspares.exists_of_standsIn (isWordlike_of_mem_keywords hw) hu hs
  obtain ⟨r, hr, hne⟩ := exists_matchAt?_keyword hw hx hv
  exact hne (hbare r hr)

/-- The first two rules, and those behind them. -/
theorem apply_script (e : Text) :
    script.apply e = (script.rules.drop 2).foldl (fun ps rule => rule.onPieces ps)
      (keywordRule.onPieces (commentOrStringRule.onPieces [.text e])) :=
  RuleSet.apply_append script.name [commentOrStringRule, keywordRule] (script.rules.drop 2) e

/-- **No reserved word stands by itself in a text** that the rules leave. -/
theorem not_standsIn_of_mem_apply (hw : w ∈ keywords) (e : Text) {t : Text}
    (ht : .text t ∈ script.apply e) : ¬Text.StandsIn w.toList t := by
  have hlike := isWordlike_of_mem_keywords hw
  -- The second rule finds the words, and no rule after it sets one free.
  have hstep : ∀ ps, (Apart ps ∧ ∀ t, .text t ∈ ps → ¬Text.StandsIn w.toList t) →
      ∀ rule ∈ script.rules.drop 2, Apart (rule.onPieces ps) ∧
        ∀ t, .text t ∈ rule.onPieces ps → ¬Text.StandsIn w.toList t := fun ps hps rule hrule =>
    ⟨rule.apart_onPieces ps, (spares_rest hw rule hrule).onPieces hlike hps.1 hps.2⟩
  rw [apply_script] at ht
  exact (List.foldlRecOn _ _ ⟨keywordRule.apart_onPieces _, fun t =>
    not_standsIn_onPieces_keyword hw (commentOrStringRule.apart_onPieces _)⟩ hstep).2 t ht

/-- **A reserved word that stands by itself in the text is wrapped**: by the first rule, as a part of
a comment or of a string, or else by the second one. -/
theorem wrapped_keyword (hw : w ∈ keywords) {u v : Text}
    (hu : isWordBeside false u.getLast? = false) (hv : isWordBeside false v.head? = false) :
    Wrapped (script.apply (u ++ (w.toList ++ v))) u w.toList v := by
  obtain ⟨hne, hletters⟩ := letters_of_keywords w hw
  have hword : ∀ c ∈ w.toList, isWord c := fun c hc => (hletters c hc).1
  have hspells : script.Spells := fun rule h => (keepsEntities_script rule h).1
  have hstart : Unbroken [.text (u ++ (w.toList ++ v))] u w.toList v :=
    ⟨[], _, [], u, v, rfl, rfl, rfl, (List.append_nil v).symm⟩
  have hfirst := makesOne_commentOrString.unbroken_onPieces spells_commentOrString
    betweenWords_commentOrString hne hword hstart
  have hsecond := (Rule.makesOne_wrap rfl : keywordRule.MakesOne).unbroken_onPieces
    (Rule.spells_wrap rfl) betweenWords_keyword hne hword hfirst
  have htwo : RuleSet.Spells ⟨script.name, script.rules.take 2⟩ := fun rule h =>
    hspells rule (List.mem_of_mem_take h)
  have hsolid : ∀ p ∈ keywordRule.onPieces
      (commentOrStringRule.onPieces [.text (u ++ (w.toList ++ v))]), p.IsSolid :=
    RuleSet.solid_apply htwo _
  rw [apply_script]
  refine (hsecond.wrapped hsolid ?_).foldl fun rule h => hspells rule (List.mem_of_mem_drop h)
  rintro x y hmem ⟨⟨a, rfl⟩, b, rfl⟩
  rw [List.getLast?_append] at hu
  rw [List.head?_append] at hv
  exact not_standsIn_onPieces_keyword hw (commentOrStringRule.apart_onPieces _) hmem
    ⟨x, y, (List.append_assoc ..).symm, isWordBeside_of_or hu, isWordBeside_of_or hv⟩

/-! ### Signs -/

/-- The brackets. -/
def brackets : List Char := ['[', ']', '\x7b', '\x7d', '(', ')']

/-- The characters that are operators, the point among them. -/
def operators : List Char := ['=', '+', '-', '*', '/', '%', '!', '|', '?', ':', '.']

/-- **The rule of brackets leaves none of them.** -/
theorem not_mem_brackets {ps : List Piece} (hps : Apart ps) {t : Text}
    (ht : .text t ∈ bracketRule.onPieces ps) {c : Char} (hc : c ∈ brackets) : c ∉ t := by
  obtain ⟨u, -, hu⟩ := Rule.exists_of_text_mem_onPieces hps ht
  refine Rule.not_mem_text rfl hu fun x v _ => ?_
  have htakes : bracketExpr.Takes [c] := Expr.takes_one.2 ⟨c, CharSet.contains_ofList.2 hc, rfl⟩
  exact htakes.exists_matchAt? (by decide) (fun _ => rfl) (by rfl) x.getLast? v

theorem takes_operator {c : Char} (hc : c ∈ operators) : operatorExpr.Takes [c] := by
  by_cases hdot : c = '.'
  · have hone : (char '.').Takes [c] := Expr.takes_one.2 ⟨c, CharSet.contains_single.2 hdot, rfl⟩
    have hrounds : (Expr.rep [[c]].length (some 3) true (char '.')).Takes [[c]].flatten :=
      Expr.takes_rounds (by simpa using hone)
    exact takes_of_mem_either (by simp) hrounds
  · have hsign : c ∈ ['=', '+', '-', '*', '/', '%', '!', '|', '?', ':'] := by
      simpa [operators, hdot] using hc
    have hone := Expr.takes_one.2 ⟨c, CharSet.contains_ofList.2 hsign, rfl⟩
    exact takes_of_mem_either (by simp) hone

theorem takes_entity (e : Entity) : operatorExpr.Takes e.text := by
  cases e with
  | amp => exact takes_of_mem_either (by simp) (takes_word "&amp;")
  | lt => exact takes_of_mem_either (by simp) (takes_word "&lt;")
  | gt => exact takes_of_mem_either (by simp) (takes_word "&gt;")

/-- **The rule of operators leaves none of them**, and no ampersand if the texts are escaped. -/
theorem not_mem_operators {ps : List Piece} (hps : Apart ps)
    (hesc : ∀ p ∈ ps, IsEscaped p.content) {t : Text}
    (ht : .text t ∈ operatorRule.onPieces ps) {c : Char} (hc : c ∈ operators ∨ c = '&') : c ∉ t := by
  obtain ⟨u, hups, hu⟩ := Rule.exists_of_text_mem_onPieces hps ht
  refine Rule.not_mem_text rfl hu fun x v huxv => ?_
  rcases hc with hc | rfl
  · exact (takes_operator hc).exists_matchAt? (by decide) (fun _ => rfl) (by rfl) x.getLast? v
  · -- The ampersand begins an entity, and this is still whole.
    obtain ⟨e, v', rfl⟩ := (hesc _ hups).entitiesWhole x v huxv
    exact (takes_entity e).exists_matchAt? (by decide) (fun _ => rfl) (by rfl) x.getLast? v'

/-- **The last two rules leave no sign**, neither bracket nor operator nor ampersand. -/
theorem ne_sign_of_mem_apply {text t : Text} (ht : .text t ∈ script.apply (escape text)) {c : Char}
    (hc : c ∈ t) : c ∉ brackets ∧ c ∉ operators ∧ c ≠ '&' := by
  have hbracket :=
    RuleSet.apply_concat script.name (script.rules.take 5) bracketRule (escape text)
  have hoperator :=
    RuleSet.apply_concat script.name (script.rules.take 6) operatorRule (escape text)
  have hsix : script.rules.take 5 ++ [bracketRule] = script.rules.take 6 := rfl
  have hseven : script.rules.take 6 ++ [operatorRule] = script.rules := rfl
  rw [hsix] at hbracket
  rw [hseven] at hoperator
  have hesc := keepsEntities_script.isEscaped_before (isEscaped_escape text)
    (List.take_append_drop 6 script.rules).symm
  change Piece.text t ∈ RuleSet.apply ⟨script.name, script.rules⟩ (escape text) at ht
  rw [hoperator] at ht
  have hno := fun h => not_mem_operators (RuleSet.apart_apply _ _) hesc ht h hc
  refine ⟨fun hb => ?_, fun ho => hno (.inl ho), fun ha => hno (.inr ha)⟩
  -- What is left in the end was there before the last rule.
  obtain ⟨u, hups, hu⟩ := Rule.exists_of_text_mem_onPieces (RuleSet.apart_apply _ _) ht
  obtain ⟨x, v, rfl, -⟩ := Rule.exists_of_mem_text rfl hu hc
  rw [hbracket] at hups
  exact not_mem_brackets (RuleSet.apart_apply _ _) hups hb (by simp)

end Script

open Script in
/-- **Nothing recognisable is left bare.** Whatever the text is, the rules of the script language make
texts and spans of it that hold the escaped text. In a text there is no bracket, no operator and no
ampersand, and no reserved word that stands by itself. So in the escaped text each bracket, each
operator, each entity and each reserved word that stands by itself there is wrapped: it is in a
span, at its place. -/
theorem nothing_recognisable_is_bare (text : Text) :
    contents (script.apply (escape text)) = escape text ∧
      (∀ p ∈ script.apply (escape text), p.IsSolid) ∧
      (∀ t, .text t ∈ script.apply (escape text) →
        (∀ c ∈ t, c ∉ brackets ∧ c ∉ operators ∧ c ≠ '&') ∧
          ∀ w ∈ keywords, ¬Text.StandsIn w.toList t) ∧
      (∀ u c v, escape text = u ++ c :: v → c ∈ brackets ∨ c ∈ operators →
        Wrapped (script.apply (escape text)) u [c] v) ∧
      (∀ u (e : Entity) v, escape text = u ++ (e.text ++ v) →
        Wrapped (script.apply (escape text)) u e.text v) ∧
      ∀ w ∈ keywords, ∀ u v, escape text = u ++ (w.toList ++ v) →
        isWordBeside false u.getLast? = false → isWordBeside false v.head? = false →
          Wrapped (script.apply (escape text)) u w.toList v := by
  have hspells : script.Spells := fun rule h => (keepsEntities_script rule h).1
  have hcontents := RuleSet.contents_apply hspells (escape text)
  have hsolid := RuleSet.solid_apply hspells (escape text)
  have hesc := keepsEntities_script.isEscaped_apply (isEscaped_escape text)
  refine ⟨hcontents, hsolid, fun t ht => ⟨fun c hc => ne_sign_of_mem_apply ht hc, fun w hw =>
    not_standsIn_of_mem_apply hw _ ht⟩, fun u c v h hc => ?_, fun u e v h => ?_,
    fun w hw u v h hu hv => h ▸ wrapped_keyword hw hu hv⟩
  · refine (unbroken_char (hcontents.trans h)).wrapped hsolid fun x y hmem _ => ?_
    obtain ⟨hbracket, hoperator, -⟩ := ne_sign_of_mem_apply hmem (c := c) (by simp)
    exact hc.elim hbracket hoperator
  · refine (unbroken_entity hesc (hcontents.trans h)).wrapped hsolid fun x y hmem _ => ?_
    obtain ⟨-, -, hne⟩ := ne_sign_of_mem_apply hmem (c := '&') (by simp [Entity.text])
    exact hne rfl

open Script in
/-- What is left between a bracket and an operator, and what is wrapped around it. -/
theorem nothing_recognisable_is_bare_name :
    .text " y ".toList ∈ script.apply (escape "if (x) y = a & b;".toList) ∧
      ((∀ c ∈ " y ".toList, c ∉ brackets ∧ c ∉ operators ∧ c ≠ '&') ∧
        ∀ w ∈ keywords, ¬Text.StandsIn w.toList " y ".toList) ∧
      Wrapped (script.apply (escape "if (x) y = a & b;".toList)) "if (x".toList [')']
        " y = a &amp; b;".toList ∧
      Wrapped (script.apply (escape "if (x) y = a & b;".toList)) "if (x) y = a ".toList
        Entity.amp.text " b;".toList ∧
      Wrapped (script.apply (escape "if (x) y = a & b;".toList)) [] "if".toList
        " (x) y = a &amp; b;".toList :=
  have h : .text " y ".toList ∈ script.apply (escape "if (x) y = a & b;".toList) := by
    decide +kernel
  ⟨h, (nothing_recognisable_is_bare _).2.2.1 _ h,
    (nothing_recognisable_is_bare _).2.2.2.1 _ _ _ (by decide) (.inl (by decide)),
    (nothing_recognisable_is_bare _).2.2.2.2.1 _ _ _ (by decide),
    (nothing_recognisable_is_bare _).2.2.2.2.2 "if" (by decide) _ _ (by decide) (by decide)
      (by decide)⟩

end CodeMarkup.Language
