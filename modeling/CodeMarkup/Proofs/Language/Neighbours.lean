import CodeMarkup.Proofs.Language.Bare
import CodeMarkup.Proofs.Language.Document
import CodeMarkup.Proofs.Language.Quotes
import CodeMarkup.Proofs.Markup.NestedSpans
import CodeMarkup.Proofs.Neighbours

/-!
# What stands next to the spans of the languages

Four rules make a span of a part of their match only: the name of a call is wrapped and not the
parenthesis behind it, the name of an element and not the start of the tag before it, and the name
of an attribute or of a property and not the sign behind it. **What is left out stands next to the
span in the end** (`CodeMarkup.Language.only_what_is_meant_is_wrapped`), whatever is around it in the
text: a start of a tag that is in quotes, or a name behind which a string begins.

It is text when the later rules come, and they may not take it. The equals sign and the colon begin
no match of theirs, and the start of a tag ends none, for a match of an attribute or of a string
ends with the equals sign or with a quote. Only the parenthesis is taken: it begins a match
of the rule of brackets wherever it stands (`CodeMarkup.Language.Script.onPieces_bracket`),
and the white space before it begins none, so it stays
(`CodeMarkup.Language.Script.opensCall_flatMap`).
-/

namespace CodeMarkup.Language

open Regex Piece

/-- What stands next to the spans of a rule is told by the runs of its expression. -/
theorem flanks_custom {name source : String} {e : Expr} {emit : Run → List Piece} {k : SpanClass}
    {G : List Piece → List Piece → Prop}
    (h : ∀ r, e.Extends .nil r → Flanked k
      (fun ps qs => ∀ before behind, G (merge (before ++ ps)) (merge (qs ++ behind))) (emit r)) :
    (⟨name, pattern source e, .custom emit⟩ : Rule).Flanks k G := by
  intro prev t m hm _
  exact h m.run (Expr.extends_of_matchAt? hm)

/-! ### Calls -/

namespace Script

variable {ws : Text} {ps : List Piece}

/-- That a document begins with an opening parenthesis as a bracket, or with a text of white space
and behind it this bracket. -/
def OpensCall (ps : List Piece) : Prop :=
  (∃ qs, ps = .span .bracket ['('] :: qs) ∨
    ∃ ws qs, ps = .text ws :: .span .bracket ['('] :: qs ∧ ws ≠ [] ∧
      ∀ c ∈ ws, Unicode.isWhiteSpace c

/-- **Behind the name of a call** there is a text with the parenthesis. -/
theorem flanks_call :
    callRule.Flanks .function
      fun _ qs => ∃ ws, (∀ c ∈ ws, Unicode.isWhiteSpace c) ∧ OpensWith (ws ++ ['(']) qs := by
  refine flanks_custom fun r hr => ?_
  obtain ⟨x, y, rfl, -, hy⟩ := run_of_groups hr (fun _ => ⟨rfl, rfl⟩) fun _ => ⟨rfl, rfl⟩
  obtain ⟨ws, z, hws, hz, rfl⟩ := Expr.takes_cat.1 hy
  obtain rfl := takes_char hz
  have hspaces := takes_many_one.1 hws
  change Flanked _ _ [.span .function x, .text (ws ++ ['('])]
  rw [flanked_cons]
  refine ⟨fun t _ before behind => ⟨ws, hspaces, ?_⟩, by simp [flanked_cons, flanked_nil]⟩
  exact opensWith_cons (by simp) _

/-- White space begins no bracket. -/
theorem beginsOutside_bracket (h : ∀ c ∈ ws, Unicode.isWhiteSpace c) :
    bracketRule.BeginsOutside ws := by
  refine ⟨bracketExpr, rfl, fun c hc => Bool.eq_false_iff.2 fun hbegins => ?_⟩
  have hmem : c ∈ brackets := CharSet.contains_ofList.1 hbegins
  have hnone : brackets.all fun c => !Unicode.isWhiteSpace c := by decide
  simpa [h c hc] using List.all_eq_true.1 hnone c hmem

/-- White space begins no operator. -/
theorem beginsOutside_operator (h : ∀ c ∈ ws, Unicode.isWhiteSpace c) :
    operatorRule.BeginsOutside ws := by
  refine ⟨operatorExpr, rfl, fun c hc => Bool.eq_false_iff.2 fun hbegins => ?_⟩
  have hmem : c ∈ ['&', '.', '=', '+', '-', '*', '/', '%', '!', '|', '?', ':'] := by
    simpa [operatorExpr, either, word, char, Expr.ofBranches, Expr.concat, Expr.factors,
      Expr.ofFactors, Expr.begins, Expr.nullable, CharSet.contains_ofList] using hbegins
  have hnone : ['&', '.', '=', '+', '-', '*', '/', '%', '!', '|', '?', ':'].all
      fun c => !Unicode.isWhiteSpace c := by decide
  simpa [h c hc] using List.all_eq_true.1 hnone c hmem

/-- **A parenthesis is matched as a bracket** wherever it stands. -/
theorem exists_segmentsFrom_bracket (prev : Option Char) (u : Text) :
    ∃ r ss, bracketExpr.toMarked.segmentsFrom prev ('(' :: u) = .hit r :: ss ∧ r.taken = ['('] := by
  have htakes : bracketExpr.Takes ['('] :=
    Expr.takes_one.2 ⟨'(', CharSet.contains_ofList.2 (by simp), rfl⟩
  obtain ⟨r, hr, hne⟩ := htakes.exists_matchAt? (by decide) (fun _ => rfl) (by rfl) prev u
  obtain ⟨t, ht⟩ := (Marked.reads_matchAt? hr).exists_append
  obtain ⟨c, -, hc⟩ := Expr.takes_one.1 (Expr.extends_of_matchAt? hr).takes
  obtain ⟨rfl, rfl⟩ : '(' = c ∧ u = t := by simpa [hc] using ht
  have hhit := Marked.segmentsFrom_hit (t := u) (by rwa [hc]) hne
  rw [hc] at hhit
  exact ⟨r, _, hhit, hc⟩

/-- **The rule of brackets takes the parenthesis** that stands behind white space. -/
theorem onPieces_bracket (h : ∀ c ∈ ws, Unicode.isWhiteSpace c) (u : Text) :
    ∃ qs, bracketRule.onPieces [.text (ws ++ '(' :: u)] =
      cons (.text ws) (.span .bracket ['('] :: qs) := by
  obtain ⟨r, ss, hss, hr⟩ := exists_segmentsFrom_bracket ws.getLast? u
  have hbody : bracketRule.pattern.body = bracketExpr.toMarked := rfl
  have hmerge := (beginsOutside_bracket h).merge_onText ('(' :: u) []
  rw [hbody, hss, List.append_nil, List.append_nil] at hmerge
  refine ⟨merge (bracketRule.onSegments (ws ++ '(' :: u) (ws.length + r.taken.length) ss), ?_⟩
  rw [Rule.onPieces, List.flatMap_singleton, Rule.onPiece, hmerge, ← hr]
  rfl

/-- **The rule of operators leaves white space** as it is. -/
theorem onPieces_operator (h : ∀ c ∈ ws, Unicode.isWhiteSpace c) (qs : List Piece) :
    ∃ qs', operatorRule.onPieces (cons (.text ws) (.span .bracket ['('] :: qs)) =
      cons (.text ws) (.span .bracket ['('] :: qs') := by
  refine ⟨merge (qs.flatMap operatorRule.onPiece), ?_⟩
  cases ws with
  | nil => rfl
  | cons c ws =>
    have hmerge := (beginsOutside_operator h).merge_onText []
      (.span .bracket ['('] :: qs.flatMap operatorRule.onPiece)
    rw [List.append_nil] at hmerge
    exact hmerge

/-- **The parenthesis behind a call** becomes a bracket, and the white space before it stays. -/
theorem opensCall_flatMap (h : ∀ c ∈ ws, Unicode.isWhiteSpace c)
    (hps : OpensWith (ws ++ ['(']) ps) :
    OpensCall (ps.flatMap (RuleSet.onPiece ⟨script.name, [bracketRule, operatorRule]⟩)) := by
  obtain ⟨u, ps, rfl⟩ := hps
  obtain ⟨qs, hbracket⟩ := onPieces_bracket h u
  obtain ⟨qs', hoperator⟩ := onPieces_operator h qs
  have happly : RuleSet.apply ⟨script.name, [bracketRule, operatorRule]⟩ (ws ++ ['('] ++ u) =
      cons (.text ws) (.span .bracket ['('] :: qs') := by
    rw [List.append_assoc, ← hoperator, ← List.singleton_append, ← hbracket]
    rfl
  rw [List.flatMap_cons, RuleSet.onPiece, happly]
  cases ws with
  | nil => exact .inl ⟨_, rfl⟩
  | cons c ws => exact .inr ⟨c :: ws, _, rfl, List.cons_ne_nil c ws, h⟩

/-- **Behind each span of a function** there is the bracket of the call. -/
theorem flanked_function (e : Text) :
    Flanked .function (fun _ qs => OpensCall qs) (script.apply e) := by
  refine RuleSet.flanked_apply script.name (script.rules.take 4) [bracketRule, operatorRule] ?_
    flanks_call ?_ ?_ e
  · simp only [script, List.take_succ_cons, List.take_zero, List.forall_mem_cons]
    exact ⟨makesOnly_commentOrString.ne (by decide), Rule.makesOnly_wrap (by decide) rfl,
      Rule.makesOnly_wrap (by decide) rfl, Rule.makesOnly_wrap (by decide) rfl, by simp⟩
  · simp only [List.forall_mem_cons]
    exact ⟨Rule.makesOnly_wrap (by decide) rfl, Rule.makesOnly_wrap (by decide) rfl, by simp⟩
  · rintro - qs ⟨ws, hws, hqs⟩
    exact opensCall_flatMap hws hqs

end Script

/-! ### Tags and attributes -/

namespace Document

/-- The starts of tags. -/
def tagStarts : List Text := ["&lt;".toList, "&lt;/".toList]

/-- **Before the name of an element** there is a text with the start of the tag. -/
theorem flanks_tag : tagRule.Flanks .tag fun ps _ => ∃ s ∈ tagStarts, ClosesWith s ps := by
  refine flanks_custom fun r hr => ?_
  obtain ⟨x, y, rfl, hx, -⟩ := run_of_groups hr (fun _ => ⟨rfl, rfl⟩) fun _ => ⟨rfl, rfl⟩
  have hstart : x ∈ tagStarts := by
    change (seq (Markup.letters "&lt;".toList ++ [optional (char '/')])).Takes x at hx
    obtain ⟨y, z, hy, hz, rfl⟩ := Expr.takes_ofFactors_append.1 hx
    obtain rfl := Markup.takes_letters.1 hy
    rcases Expr.takes_optional.1 hz with rfl | hz
    · exact .head _
    · rw [takes_char hz]
      exact .tail _ (.head _)
  change Flanked _ _ [.text x, .span .tag y]
  rw [flanked_cons, flanked_cons]
  refine ⟨by simp, fun t _ before behind => ⟨x, hstart, ?_⟩, flanked_nil⟩
  exact closesWith_merge (by rintro rfl; simp [tagStarts] at hstart) before

/-- **Behind the name of an attribute** there is a text with the equals sign. -/
theorem flanks_attribute :
    attributeRule.Flanks .property fun _ qs => OpensWith ['='] qs := by
  have hsign : ∀ ps, OpensWith ['='] (merge (.text ['='] :: ps)) := fun ps =>
    opensWith_cons (by simp) (merge ps)
  refine flanks_custom fun r hr => ?_
  obtain ⟨x, -, -, rfl | ⟨y, rfl, -⟩⟩ := run_attribute hr
  · rw [emitAttribute_run, flanked_cons]
    exact ⟨fun t _ _ _ => hsign _, by simp [flanked_cons, flanked_nil]⟩
  · rw [emitAttribute_run_value, flanked_cons]
    exact ⟨fun t _ _ _ => hsign _, by simp [flanked_cons, flanked_nil]⟩

theorem makesOnly_tag : tagRule.MakesOnly fun k => k = .tag := by
  intro m k t h
  have hspan : k = .tag ∧ t = (m.run.group? 2).getD [] := by
    simpa [tagRule, Emitter.emit, emitTag] using h
  exact hspan.1

theorem makesOnly_attribute : attributeRule.MakesOnly fun k => k = .property ∨ k = .string := by
  intro m k t h
  change .span k t ∈ emitAttribute m.run at h
  unfold emitAttribute at h
  rcases List.mem_append.1 h with h | h
  · obtain ⟨rfl, -⟩ : k = .property ∧ t = (m.run.group? 1).getD [] := by simpa using h
    exact .inl rfl
  · obtain ⟨y, -, heq⟩ := Option.map_eq_some_iff.1 (Option.mem_toList.1 h)
    exact .inr (Piece.span.inj heq).1.symm

/-- **Before each span of a tag** there is the start of the tag. -/
theorem flanked_tag (e : Text) :
    Flanked .tag (fun ps _ => ∃ s ∈ tagStarts, ClosesWith s ps) (document.apply e) := by
  -- A match of the rules behind ends with the equals sign or with a quote.
  have hends : ∀ s ∈ tagStarts, attributeRule.EndsOutside s ∧ stringRule.EndsOutside s := by
    simp only [tagStarts, List.forall_mem_cons]
    exact ⟨⟨Rule.endsOutside_of_all rfl (by decide), Rule.endsOutside_of_all rfl (by decide)⟩,
      ⟨Rule.endsOutside_of_all rfl (by decide), Rule.endsOutside_of_all rfl (by decide)⟩, by simp⟩
  refine RuleSet.flanked_apply document.name (document.rules.take 1) [attributeRule, stringRule] ?_
    flanks_tag ?_ ?_ e
  · simp only [document, List.take_succ_cons, List.take_zero, List.forall_mem_cons]
    exact ⟨Rule.makesOnly_wrap (by decide) rfl, by simp⟩
  · simp only [List.forall_mem_cons]
    exact ⟨makesOnly_attribute.ne (by decide), Rule.makesOnly_wrap (by decide) rfl, by simp⟩
  · rintro ps - ⟨s, hs, hps⟩
    refine ⟨s, hs, RuleSet.closesWith_flatMap ?_ ?_ hps⟩
    · simp only [List.forall_mem_cons]
      exact ⟨(hends s hs).1, (hends s hs).2, by simp⟩
    · rintro rfl
      simp [tagStarts] at hs

/-- **Behind each span of a property** there is the equals sign. -/
theorem flanked_property (e : Text) :
    Flanked .property (fun _ qs => OpensWith ['='] qs) (document.apply e) := by
  refine RuleSet.flanked_apply document.name (document.rules.take 2) [stringRule] ?_
    flanks_attribute ?_ ?_ e
  · simp only [document, List.take_succ_cons, List.take_zero, List.forall_mem_cons]
    exact ⟨Rule.makesOnly_wrap (by decide) rfl, makesOnly_tag.ne (by decide), by simp⟩
  · simpa using Rule.makesOnly_wrap (by decide) rfl
  · rintro - qs hqs
    refine RuleSet.opensWith_flatMap ?_ (by simp) hqs
    simpa using Rule.beginsOutside_of_all rfl (by decide)

end Document

/-! ### Properties -/

namespace Style

/-- **Behind the name of a property** there is a text with the colon. -/
theorem flanks_property : propertyRule.Flanks .property fun _ qs => OpensWith [':'] qs := by
  refine flanks_custom fun r hr => ?_
  rcases run_property hr with ⟨x, rfl, -⟩ | ⟨x, rfl, -⟩
  · rw [emitProperty_run_string]
    simp [flanked_cons, flanked_nil]
  · rw [emitProperty_run, flanked_cons]
    exact ⟨fun t _ _ _ => opensWith_cons (by simp) _, by simp [flanked_cons, flanked_nil]⟩

/-- **Behind each span of a property** there is the colon. -/
theorem flanked_property (e : Text) :
    Flanked .property (fun _ qs => OpensWith [':'] qs) (style.apply e) := by
  refine RuleSet.flanked_apply style.name (style.rules.take 1) [colorRule, stringRule] ?_
    flanks_property ?_ ?_ e
  · simp only [style, List.take_succ_cons, List.take_zero, List.forall_mem_cons]
    exact ⟨Rule.makesOnly_wrap (by decide) rfl, by simp⟩
  · simp only [List.forall_mem_cons]
    exact ⟨makesOnly_color.ne (by decide), Rule.makesOnly_wrap (by decide) rfl, by simp⟩
  · rintro - qs hqs
    refine RuleSet.opensWith_flatMap ?_ (by simp) hqs
    simp only [List.forall_mem_cons]
    exact ⟨Rule.beginsOutside_of_all rfl (by decide), Rule.beginsOutside_of_all rfl (by decide),
      by simp⟩

end Style

/-! ### Main statement -/

open Markup in
/-- **Only the part that is meant is wrapped, and it stays so.** Whatever the text is, behind each
span of a function there is the bracket that opens the call, with nothing but white space before it;
before the name of an element there is the start of the tag, and behind the name of an attribute
the equals sign; and behind the name of a property in a style sheet there is the colon. -/
theorem only_what_is_meant_is_wrapped (text : Text) :
    Flanked .function (fun _ behind => Script.OpensCall behind) (script.apply (escape text)) ∧
      Flanked .tag (fun before _ => ClosesWith "&lt;".toList before ∨
        ClosesWith "&lt;/".toList before) (document.apply (escape text)) ∧
      Flanked .property (fun _ behind => OpensWith ['='] behind) (document.apply (escape text)) ∧
      Flanked .property (fun _ behind => OpensWith [':'] behind) (style.apply (escape text)) := by
  refine ⟨Script.flanked_function _, fun before t behind h => ?_, Document.flanked_property _,
    Style.flanked_property _⟩
  simpa [Document.tagStarts] using Document.flanked_tag _ before t behind h

/-- A call with a space in it, and the end of an element. -/
theorem only_what_is_meant_is_wrapped_call :
    script.apply (Markup.escape "f (x)".toList) =
        [] ++ .span .function ['f'] :: [.text [' '], .span .bracket ['('], .text ['x'],
          .span .bracket [')']] ∧
      Script.OpensCall [.text [' '], .span .bracket ['('], .text ['x'], .span .bracket [')']] ∧
      document.apply (Markup.escape "x</a>".toList) =
        [.text "x&lt;/".toList] ++ .span .tag ['a'] :: [.text "&gt;".toList] ∧
      (ClosesWith "&lt;".toList [.text "x&lt;/".toList] ∨
        ClosesWith "&lt;/".toList [.text "x&lt;/".toList]) := by
  have hscript : script.apply (Markup.escape "f (x)".toList) =
      [] ++ .span .function ['f'] :: [.text [' '], .span .bracket ['('], .text ['x'],
        .span .bracket [')']] := by decide +kernel
  have hdocument : document.apply (Markup.escape "x</a>".toList) =
      [.text "x&lt;/".toList] ++ .span .tag ['a'] :: [.text "&gt;".toList] := by decide +kernel
  obtain ⟨hcall, -⟩ := only_what_is_meant_is_wrapped "f (x)".toList
  obtain ⟨-, htag, -⟩ := only_what_is_meant_is_wrapped "x</a>".toList
  exact ⟨hscript, hcall _ _ _ hscript, hdocument, htag _ _ _ hdocument⟩

end CodeMarkup.Language
