import CodeMarkup.Proofs.Language.Style
import CodeMarkup.Proofs.Language.Tokens
import CodeMarkup.Proofs.PassedTokens

/-!
# The strings of the style language

Three rules of the style language look for strings, one after the other, and each of them looks
through other texts than the one before it. The first two let a string pass as text, so that what
is in it is not taken for a property or a colour; the last one wraps it. **All three find the same
strings**, and these are the tokens of one scan over each text that the comments leave
(`CodeMarkup.Language.quoted_tokens_are_strings`).

A token is told by its own characters, from a quote through the next such quote
(`CodeMarkup.Language.Style.isLocal_token?`), and what the first two rules match besides has no
quote in it. So they pass over the tokens (`CodeMarkup.Language.Style.passesOver_quotedOr`), also
over a quote that is never closed: no token begins there, and the search goes on behind it.
-/

namespace CodeMarkup.Language

open Regex Piece

namespace Style

variable {t x : Text}

/-! ### The tokens -/

/-- The quoted token that begins a text: from a quote through the next such quote that no backslash
stands before. It may run over several lines, but no backslash stands at the end of one. -/
def quoted? : Text → Option Text
  | '"' :: t => (Text.throughQuote? '"' (· ≠ '\n') (fun _ => true) t).map ('"' :: ·)
  | '\'' :: t => (Text.throughQuote? '\'' (· ≠ '\n') (fun _ => true) t).map ('\'' :: ·)
  | _ => none

/-- The quoted token that begins a text, as a string. -/
def token? (t : Text) : Option (SpanClass × Text) := (quoted? t).map (.string, ·)

theorem quoted?_eq_some (h : quoted? t = some x) :
    x ≠ [] ∧ (∃ u, t = x ++ u) ∧ ∀ v, quoted? (x ++ v) = some x := by
  revert h
  fun_cases quoted? t with
  | case1 t | case2 t =>
    intro h
    obtain ⟨y, hy, rfl⟩ := Option.map_eq_some_iff.1 h
    obtain ⟨⟨u, rfl⟩, hv⟩ := Text.throughQuote?_eq_some hy
    refine ⟨by simp, ⟨u, rfl⟩, fun v => ?_⟩
    rw [List.cons_append, quoted?, hv]
    rfl
  | case3 => exact fun h => by cases h

theorem token?_eq_some_iff {k : SpanClass} :
    token? t = some (k, x) ↔ k = .string ∧ quoted? t = some x := by
  rw [token?, Option.map_eq_some_iff]
  constructor
  · rintro ⟨y, hy, heq⟩
    obtain ⟨rfl, rfl⟩ := Prod.mk.inj heq
    exact ⟨rfl, hy⟩
  · rintro ⟨rfl, h⟩
    exact ⟨x, h, rfl⟩

/-- **What stands behind a quoted token does not matter.** -/
theorem isLocal_token? : Text.IsLocal token? where
  ne_nil h := (quoted?_eq_some (token?_eq_some_iff.1 h).2).1
  exists_append h := (quoted?_eq_some (token?_eq_some_iff.1 h).2).2.1
  congr h u := by
    obtain ⟨rfl, hx⟩ := token?_eq_some_iff.1 h
    exact token?_eq_some_iff.2 ⟨rfl, (quoted?_eq_some hx).2.2 u⟩

theorem isFree_token? {c : Char} (hdouble : c ≠ '"') (hsingle : c ≠ '\'') :
    Text.IsFree token? c := by
  intro t
  rw [token?, quoted?]
  · rfl
  · exact fun _ h => hdouble (List.cons.inj h).1
  · exact fun _ h => hsingle (List.cons.inj h).1

/-! ### The search -/

section Search

variable {prev : Option Char} {r : Run}

theorem search_quotedBy {q : Char} (hq : q ≠ '\\') :
    (quotedBy q).toMarked.search (.word [] r) prev (q :: t) =
      ((Text.throughQuote? q (· ≠ '\n') (fun _ => true) t).map (q :: ·)).map
        (·.foldr Run.push r) := by
  rw [← contains_notLineFeed]
  refine Marked.search_enclosed hq (fun c => ?_) r prev t
  simp [CharSet.contains_compl_ofList]

/-- **The expression of strings finds the quoted token** that begins the text. -/
theorem search_quotedExpr :
    quotedExpr.toMarked.search (.word [] r) prev t = (quoted? t).map (·.foldr Run.push r) := by
  have hm : quotedExpr.toMarked = .alt (quotedBy '"').toMarked (quotedBy '\'').toMarked := rfl
  have hnone : ∀ q, (∀ u, t ≠ q :: u) → (quotedBy q).toMarked.search (.word [] r) prev t = none :=
    fun q h => Marked.search_enclosed_of_ne h _ _
  rw [hm, Marked.search_alt]
  fun_cases quoted? t with
  | case1 t => rw [search_quotedBy (by decide), hnone '\'' (by simp), Option.or_none]
  | case2 t => rw [hnone '"' (by simp), search_quotedBy (by decide), Option.none_or]
  | case3 t hdouble hsingle =>
    rw [hnone '"' hdouble, hnone '\'' hsingle]
    rfl

end Search

/-! ### The rules -/

/-- **The best match is the quoted token**, as a group, or else that of the other expression. -/
theorem matchAt?_quotedOr {other : Expr}
    (hp : (either [.group 1 quotedExpr, other]).toMarked.plain) (prev : Option Char) (c : Char)
    (t : Text) :
    (either [.group 1 quotedExpr, other]).toMarked.matchAt? prev (c :: t) =
      ((quoted? (c :: t)).map fun x => ⟨x, [], [⟨1, x, []⟩]⟩).or
        (other.toMarked.matchAt? prev (c :: t)) := by
  have hm : (either [.group 1 quotedExpr, other]).toMarked =
    .alt (.group 1 quotedExpr.toMarked) other.toMarked := rfl
  have hother : other.toMarked.plain := by
    rw [hm] at hp
    exact (Bool.and_eq_true_iff.1 hp).2
  rw [Marked.matchAt?_eq_search hp, Marked.matchAt?_eq_search hother, hm, Marked.search_alt,
    Marked.search_group fun _ => search_quotedExpr]

/-- **A rule passes over the quoted tokens** if it matches them first, lets them pass as text, and
takes no quote otherwise. -/
theorem passesOver_quotedOr {name source : String} {other : Expr} {emit : Run → List Piece}
    (hp : (either [.group 1 quotedExpr, other]).toMarked.plain)
    (hemit : ∀ x, emit ⟨x, [], [⟨1, x, []⟩]⟩ = [.text x])
    (hdouble : other.allows (.take '"') = false) (hsingle : other.allows (.take '\'') = false) :
    (⟨name, pattern source (either [.group 1 quotedExpr, other]), .custom emit⟩ : Rule).PassesOver
      token? where
  token prev c t k x h := by
    have hx := (token?_eq_some_iff.1 h).2
    refine ⟨⟨x, [], [⟨1, x, []⟩]⟩, ?_, rfl, fun _ _ => hemit x⟩
    exact (matchAt?_quotedOr hp prev c t).trans (by rw [hx]; rfl)
  free prev c t r h hr d hd := by
    have hnone : quoted? (c :: t) = none := Option.map_eq_none_iff.1 h
    have hother : other.toMarked.matchAt? prev (c :: t) = some r := by
      have hbest := (matchAt?_quotedOr hp prev c t).symm.trans hr
      rwa [hnone] at hbest
    have htakes : other.Takes r.taken := (Expr.extends_of_matchAt? hother).takes
    refine isFree_token? ?_ ?_
    · rintro rfl
      exact htakes.not_mem hdouble hd
    · rintro rfl
      exact htakes.not_mem hsingle hd

theorem passesOver_property : propertyRule.PassesOver token? :=
  passesOver_quotedOr (by decide) emitProperty_run_string (by rfl) (by rfl)

theorem passesOver_color : colorRule.PassesOver token? :=
  passesOver_quotedOr (by decide) (fun _ => rfl) (by rfl) (by rfl)

/-- **The last rule takes the quoted tokens.** -/
theorem scans_string : stringRule.Scans token? := by
  intro u n prev c t
  have hmatch : quotedExpr.toMarked.matchAt? prev (c :: t) =
      (quoted? (c :: t)).map (·.foldr Run.push .nil) := by
    have hplain : quotedExpr.toMarked.plain := by decide
    have hsearch := @search_quotedExpr (c :: t) prev .nil
    rw [Onward.word_nil] at hsearch
    exact (Marked.matchAt?_eq_search hplain prev c t).trans hsearch
  refine ⟨?_, fun k x h => isLocal_token?.ne_nil h⟩
  change (quotedExpr.toMarked.matchAt? prev (c :: t)).map _ = _
  rw [hmatch, token?, Option.map_map, Option.map_map]
  refine congrFun (congrArg _ (funext fun x => ?_)) _
  simp [stringRule, Emitter.emit, Run.taken_foldr_push, Run.nil]

theorem makesOnly_property : propertyRule.MakesOnly fun k => k = .property := by
  intro m k t h
  change .span k t ∈ emitProperty m.run at h
  unfold emitProperty at h
  split at h
  · obtain ⟨rfl, -⟩ : k = .property ∧ _ := by simpa using h
    rfl
  · simp at h

theorem makesOnly_color : colorRule.MakesOnly fun k => k = .number := by
  intro m k t h
  change .span k t ∈ emitColor m.run at h
  unfold emitColor at h
  split at h
  · obtain ⟨rfl, -⟩ : k = .number ∧ _ := by simpa using h
    rfl
  · simp at h

/-- The rules behind the one of comments. -/
def afterComments : RuleSet := ⟨style.name, style.rules.tail⟩

theorem style_rules : style.rules = commentRule :: afterComments.rules := rfl

/-- **The rules of the style language work on each text that the comments leave**, and leave the
comments alone. -/
theorem apply_style_eq_flatMap (t : Text) :
    style.apply t = (commentRule.onPieces [.text t]).flatMap afterComments.onPiece := by
  rw [RuleSet.apply, style_rules, List.foldl_cons]
  exact RuleSet.foldl_onPieces_eq_flatMap _ _ (commentRule.apart_onPieces _)

/-- **The strings of a text without comments are the tokens of a scan.** -/
theorem filter_spansFrom_afterComments (n : Nat) (t : Text) :
    (spansFrom n (afterComments.apply t)).filter (fun s => s.kind = .string) =
      Text.scanFrom token? n t := by
  refine RuleSet.filter_spansFrom_apply_passing (K := fun k => k = .string) isLocal_token? [_, _] ?_
    ⟨scans_string, Rule.spells_wrap rfl, Rule.makesOnly_wrap rfl rfl⟩ "css" n t
  simp only [List.forall_mem_cons]
  exact ⟨⟨passesOver_property, spells_property, makesOnly_property.mono fun k hk => by simp [hk]⟩,
    ⟨passesOver_color, spells_color, makesOnly_color.mono fun k hk => by simp [hk]⟩, by simp⟩

end Style

open Style in
/-- **The strings of a style sheet are its quoted tokens.** Each text that the comments leave goes
through the other rules on its own and stays the text that it is, and the strings that they make of
it are the tokens of a scan from left to right, each at its place; no property and no colour
overlaps one. -/
theorem quoted_tokens_are_strings (text : Text) :
    style.apply (Markup.escape text) =
        (commentRule.onPieces [.text (Markup.escape text)]).flatMap afterComments.onPiece ∧
      ∀ t, .text t ∈ commentRule.onPieces [.text (Markup.escape text)] →
        contents (afterComments.apply t) = t ∧
          (spansFrom 0 (afterComments.apply t)).filter (fun s => s.kind = .string) =
            Text.scanFrom token? 0 t ∧
          ∀ s ∈ spansFrom 0 (afterComments.apply t), s.kind = .property ∨ s.kind = .number →
            ∀ quoted ∈ Text.scanFrom token? 0 t, s.Clear quoted := by
  refine ⟨apply_style_eq_flatMap _, fun t _ => ?_⟩
  have hspells : afterComments.Spells := fun rule h =>
    (keepsEntities_style rule (List.mem_of_mem_tail h)).1
  have hstrings := filter_spansFrom_afterComments 0 t
  refine ⟨RuleSet.contents_apply hspells t, hstrings, fun s hs hkind quoted hquoted => ?_⟩
  rw [← hstrings, List.mem_filter, decide_eq_true_iff] at hquoted
  refine clear_of_mem_spansFrom hs hquoted.1 ?_
  rintro rfl
  rw [hquoted.2] at hkind
  rcases hkind with hkind | hkind <;> cases hkind

/-- The name of a property before a string that holds what looks like a colour. -/
theorem quoted_tokens_are_strings_color :
    .text "a:\"#fff\"".toList ∈ Style.commentRule.onPieces
        [.text (Markup.escape "a:\"#fff\"/**/".toList)] ∧
      ⟨0, .property, "a".toList⟩ ∈ spansFrom 0 (Style.afterComments.apply "a:\"#fff\"".toList) ∧
      ⟨2, .string, "\"#fff\"".toList⟩ ∈ Text.scanFrom Style.token? 0 "a:\"#fff\"".toList ∧
      PlacedSpan.Clear ⟨0, .property, "a".toList⟩ ⟨2, .string, "\"#fff\"".toList⟩ := by
  have htext : .text "a:\"#fff\"".toList ∈ Style.commentRule.onPieces
      [.text (Markup.escape "a:\"#fff\"/**/".toList)] := by decide +kernel
  obtain ⟨-, hscan, hclear⟩ := (quoted_tokens_are_strings "a:\"#fff\"/**/".toList).2 _ htext
  have hproperty : ⟨0, .property, "a".toList⟩ ∈
      spansFrom 0 (Style.afterComments.apply "a:\"#fff\"".toList) := by decide +kernel
  have hquoted : ⟨2, .string, "\"#fff\"".toList⟩ ∈
      Text.scanFrom Style.token? 0 "a:\"#fff\"".toList := by
    rw [← hscan]
    decide +kernel
  exact ⟨htext, hproperty, hquoted, hclear _ hproperty (.inl rfl) _ hquoted⟩

end CodeMarkup.Language
