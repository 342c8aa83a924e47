import CodeMarkup.Proofs.Language.Script
import CodeMarkup.Proofs.Regex.Loops
import CodeMarkup.Proofs.Spans

/-!
# The comments and strings of the script language

The first rule of the script language has one expression with loops and branches in it, and what
it does to a text is what a scanner does that never goes back: it goes from left to right, takes
the comment or the string that begins at a place (`CodeMarkup.Language.Script.token?`), goes on
behind it, and goes on behind the next character where none begins. What comes of the whole
language is the same: **the comments and strings of a script are the tokens of this scan**
(`CodeMarkup.Language.comments_and_strings`).

There are two halves to this. At one place, the search of the expression comes to the token
(`CodeMarkup.Language.Script.scans_commentOrString`). Each branch begins with characters of its own,
and behind them there is a loop that is a scan (`CodeMarkup.Regex.Marked.search_many`,
`CodeMarkup.Regex.Marked.search_loop_all`, `CodeMarkup.Regex.Marked.search_quoted`), so no branch
that fails is followed by one that succeeds later on. And the six other rules make spans of other
classes (`CodeMarkup.Language.Script.makesOnly_rest`) and leave those that are there alone.
-/

namespace CodeMarkup.Language

open Regex Piece

namespace Script

/-! ### The tokens -/

/-- The comment that begins a text: from two slashes up to the end of the line, or from a slash and
a star through the next star and slash. -/
def comment? : Text → Option Text
  | '/' :: '/' :: t => some ('/' :: '/' :: t.takeWhile (· ≠ '\n'))
  | '/' :: '*' :: t => (Text.throughFirst? ['*', '/'] t).map fun x => '/' :: '*' :: x
  | _ => none

/-- The string that begins a text: between quotes on one line, or between backquotes. -/
def string? : Text → Option Text
  | '"' :: t => (Text.throughQuote? '"' (· ≠ '\n') (· ≠ '\n') t).map ('"' :: ·)
  | '\'' :: t => (Text.throughQuote? '\'' (· ≠ '\n') (· ≠ '\n') t).map ('\'' :: ·)
  | '\x60' :: t => (Text.throughQuote? '\x60' (fun _ => true) (fun _ => true) t).map ('\x60' :: ·)
  | _ => none

/-- The comment or the string that begins a text, with its class. -/
def token? (t : Text) : Option (SpanClass × Text) :=
  ((comment? t).map (.comment, ·)).or ((string? t).map (.string, ·))

/-! ### The search -/

section Search

variable {prev : Option Char} {t : Text} {r : Run}

/-- **The expression of comments finds the comment** that begins the text. -/
theorem search_comment :
    commentExpr.toMarked.search (.word [] r) prev t = (comment? t).map (·.foldr Run.push r) := by
  have hm : commentExpr.toMarked = .alt
      (.cat (.one (.single '/') none) (.cat (.one (.single '/') none)
        (.many (.compl (.ofList ['\n'])))))
      (.cat (.one (.single '/') none) (.cat (.one (.single '*') none)
        (.cat (.loop false (.one .all none))
          (.cat (.one (.single '*') none) (.one (.single '/') none))))) := rfl
  have hline : ∀ prev t, (Marked.many (.compl (.ofList ['\n']))).search (.word [] r) prev t =
      some ((t.takeWhile (· ≠ '\n')).foldr Run.push r) := by
    rw [← contains_notLineFeed]
    exact Marked.search_many _ fun _ _ => congrFun₂ (Onward.word_nil r) _ _
  have hblock : ∀ prev t, (Marked.loop false (.one .all none)).search (.word ['*', '/'] r) prev t =
      (Text.throughFirst? ['*', '/'] t).map (·.foldr Run.push r) :=
    Marked.search_loop_all (by simp) r
  rw [hm, Marked.search_alt]
  simp only [Marked.search_cat, Marked.search_single_word]
  fun_cases comment? t with
  | case1 t => simp [Marked.search_single_cons, hline]
  | case2 t => simp [Marked.search_single_cons, hblock, Function.comp_def]
  | case3 t hnoline hnoblock =>
    rcases t with _ | ⟨c, _ | ⟨d, t⟩⟩
    · rfl
    · simp [Marked.search_single_cons, Marked.search_one_nil]
    · by_cases hc : c = '/'
      · subst hc
        have hslash : d ≠ '/' := fun h => hnoline t (by rw [h])
        have hstar : d ≠ '*' := fun h => hnoblock t (by rw [h])
        simp [Marked.search_single_cons, hslash, hstar]
      · simp [Marked.search_single_cons, hc]

theorem search_lineString {q : Char} (hq : q ≠ '\\') :
    (lineString q).toMarked.search (.word [] r) prev (q :: t) =
      ((Text.throughQuote? q (· ≠ '\n') (· ≠ '\n') t).map (q :: ·)).map (·.foldr Run.push r) := by
  rw [← contains_notLineFeed]
  refine Marked.search_enclosed hq (fun c => ?_) r prev t
  simp [CharSet.contains_compl_ofList, Bool.and_assoc]

theorem search_templateString :
    templateString.toMarked.search (.word [] r) prev ('\x60' :: t) =
      ((Text.throughQuote? '\x60' (fun _ => true) (fun _ => true) t).map ('\x60' :: ·)).map
        (·.foldr Run.push r) := by
  have hall : (fun _ => true) = CharSet.all.contains :=
    funext fun c => (CharSet.contains_all c).symm
  rw [hall]
  refine Marked.search_enclosed (by decide) (fun c => ?_) r prev t
  simp [CharSet.contains_compl_ofList]

/-- **The expression of strings finds the string** that begins the text. -/
theorem search_string :
    stringExpr.toMarked.search (.word [] r) prev t = (string? t).map (·.foldr Run.push r) := by
  have hm : stringExpr.toMarked = .alt (lineString '"').toMarked
      (.alt (lineString '\'').toMarked templateString.toMarked) := rfl
  have hline : ∀ q, (∀ u, t ≠ q :: u) → (lineString q).toMarked.search (.word [] r) prev t = none :=
    fun q h => Marked.search_enclosed_of_ne h _ _
  have htemplate : (∀ u, t ≠ '\x60' :: u) →
      templateString.toMarked.search (.word [] r) prev t = none :=
    fun h => Marked.search_enclosed_of_ne h _ _
  rw [hm, Marked.search_alt, Marked.search_alt]
  fun_cases string? t with
  | case1 t =>
    rw [search_lineString (by decide), hline '\'' (by simp), htemplate (by simp), Option.or_none,
      Option.or_none]
  | case2 t =>
    rw [hline '"' (by simp), search_lineString (by decide), htemplate (by simp), Option.none_or,
      Option.or_none]
  | case3 t =>
    rw [hline '"' (by simp), hline '\'' (by simp), search_templateString, Option.none_or,
      Option.none_or]
  | case4 t hdouble hsingle hback =>
    rw [hline '"' hdouble, hline '\'' hsingle, htemplate hback]
    rfl

end Search

/-! ### The rule -/

/-- **The best match is the comment or the string that begins the text**, as a group. -/
theorem matchAt?_commentOrString (prev : Option Char) (c : Char) (t : Text) :
    commentOrStringExpr.toMarked.matchAt? prev (c :: t) =
      ((comment? (c :: t)).map fun x => ⟨x, [], [⟨1, x, []⟩]⟩).or
        ((string? (c :: t)).map fun x => ⟨x, [], [⟨2, x, []⟩]⟩) := by
  have hm : commentOrStringExpr.toMarked =
    .alt (.group 1 commentExpr.toMarked) (.group 2 stringExpr.toMarked) := rfl
  rw [Marked.matchAt?_eq_search plain_commentOrString, hm, Marked.search_alt,
    Marked.search_group fun _ => search_comment, Marked.search_group fun _ => search_string]

/-- **The rule of comments and strings takes the token** that begins a text. -/
theorem scans_commentOrString : commentOrStringRule.Scans token? := by
  intro u n prev c t
  have hmatch : (commentOrStringExpr.toMarked.matchAt? prev (c :: t)).map
      (fun r => (r.taken, emitCommentOrString r)) =
        (token? (c :: t)).map fun s => (s.2, [.span s.1 s.2]) := by
    rw [matchAt?_commentOrString, token?]
    rcases comment? (c :: t) with _ | x
    · rcases string? (c :: t) with _ | x
      · rfl
      · rfl
    · rfl
  refine ⟨hmatch, fun k x htoken => ?_⟩
  rw [htoken, Option.map_some, Option.map_eq_some_iff] at hmatch
  obtain ⟨r, hr, heq⟩ := hmatch
  have htaken : r.taken = x := congrArg Prod.fst heq
  rw [← htaken]
  exact (Expr.extends_of_matchAt? hr).takes.ne_nil (by rfl)

/-- Whether a class is that of comments or that of strings. -/
def isToken (k : SpanClass) : Bool := k = .comment ∨ k = .string

theorem makesOnly_commentOrString : commentOrStringRule.MakesOnly fun k => isToken k := by
  intro m k t h
  obtain ⟨rfl, -⟩ : k = (if (m.run.group? 1).isSome then .comment else .string) ∧
      t = m.run.taken := by
    simpa [commentOrStringRule, Emitter.emit, emitCommentOrString] using h
  split <;> rfl

theorem makesOnly_call : callRule.MakesOnly fun k => isToken k = false := by
  intro m k t h
  obtain ⟨rfl, -⟩ : k = .function ∧ t = (m.run.group? 1).getD [] := by
    simpa [callRule, Emitter.emit, emitCall] using h
  rfl

/-- The rules behind the first one make no comments and no strings. -/
theorem makesOnly_rest : ∀ rule ∈ script.rules.tail, rule.MakesOnly fun k => isToken k = false := by
  simp only [script, List.tail_cons, List.forall_mem_cons]
  exact ⟨Rule.makesOnly_wrap rfl rfl, Rule.makesOnly_wrap rfl rfl, Rule.makesOnly_wrap rfl rfl,
    makesOnly_call, Rule.makesOnly_wrap rfl rfl, Rule.makesOnly_wrap rfl rfl, by simp⟩

end Script

open Script in
/-- **The comments and strings of a script are the tokens of a scan from left to right**, each at
its place: what the later rules do neither adds one nor changes one. -/
theorem comments_and_strings (text : Text) :
    (spansFrom 0 (script.apply (Markup.escape text))).filter
        (fun s => s.kind = .comment ∨ s.kind = .string) =
      Text.scanFrom token? 0 (Markup.escape text) := by
  have hrules : script.rules = commentOrStringRule :: script.rules.tail := rfl
  have hspells : ∀ rule ∈ script.rules.tail, rule.Spells := fun rule h =>
    (keepsEntities_script rule (List.mem_of_mem_tail h)).1
  refine (RuleSet.filter_spansFrom_apply hrules hspells makesOnly_rest _).trans ?_
  rw [scans_commentOrString.spansFrom_onText, List.filter_eq_self]
  -- The first rule makes nothing else.
  intro s hs
  rw [← scans_commentOrString.spansFrom_onText] at hs
  exact makesOnly_commentOrString.onText (span_mem_of_mem_spansFrom hs)

end CodeMarkup.Language
