import CodeMarkup.Language.Script
import CodeMarkup.Proofs.Language.Patterns
import CodeMarkup.Proofs.Regex.Search

/-!
# The rules of the script language

All seven rules spell out their matches and keep entities
(`CodeMarkup.Language.keepsEntities_script`). Five of them wrap their matches, and their
expressions pass the checks; a call is cut between the name and what follows it, and
no entity is left open at the end of either (`CodeMarkup.Language.Script.run_call`).

The comment up to the end of the line is different. Its expression does not pass the
check of the end: it may take any character but a line feed, so it has ways that end
inside of an entity. Such a way is not the best one. **A comment that begins with two
slashes takes all that there is up to the line feed**
(`CodeMarkup.Language.Script.taken_lineComment`), and the line feed is in no entity.
-/

namespace CodeMarkup.Language

open Regex Markup Piece

namespace Script

variable {r : Run}

/-! ### Comments and strings -/

theorem spells_commentOrString : commentOrStringRule.Spells := by
  refine spells_custom fun r hr => ?_
  have hne : r.taken ≠ [] := hr.takes.ne_nil (by rfl)
  exact ⟨by simp [emitCommentOrString, content], by simp [emitCommentOrString, IsSolid, hne]⟩

/-- What a comment up to the end of the line takes begins with two slashes. -/
theorem takes_lineComment {x : Text}
    (h : (seq [char '/', char '/', many notLineFeed]).Takes x) : ∃ y, x = '/' :: '/' :: y := by
  obtain ⟨y, z, hy, hz, rfl⟩ := Expr.takes_cat.1 h
  obtain ⟨y', z, hy', -, rfl⟩ := Expr.takes_cat.1 hz
  obtain rfl := takes_char hy
  obtain rfl := takes_char hy'
  exact ⟨z, rfl⟩

/-- What the comment up to the end of the line is in the marked expression. -/
theorem toMarked_commentOrString : ∃ block string : Marked,
    commentOrStringExpr.toMarked =
      .alt (.group 1 (.alt (.cat (.one (.single '/') none) (.cat (.one (.single '/') none)
        (.many (.compl (.single '\n'))))) block)) string :=
  ⟨_, _, rfl⟩

theorem plain_commentOrString : commentOrStringExpr.toMarked.plain := by decide

/-- **A comment that begins with two slashes takes all up to the line feed.** -/
theorem taken_lineComment {prev : Option Char} {t : Text}
    (h : commentOrStringExpr.toMarked.matchAt? prev ('/' :: '/' :: t) = some r) :
    r.taken = '/' :: '/' :: t.takeWhile (CharSet.compl (.single '\n')).contains := by
  rw [Marked.matchAt?_eq_search plain_commentOrString] at h
  obtain ⟨block, string, hm⟩ := toMarked_commentOrString
  -- Behind the comment there is nothing but the end of the group.
  have hmany := Marked.search_many (.compl (.single '\n'))
    (k := fun prev t => (Onward.arrive prev t).map (Run.openGroup 1))
    (f := fun _ => Run.nil.openGroup 1) (fun _ _ => rfl) (some '/') t
  have hslash : (CharSet.single '/').contains '/' := CharSet.contains_single.2 rfl
  rw [hm] at h
  simp only [Marked.search, hslash, if_true, hmany, Option.map_some, Option.some_or,
    Option.some.injEq] at h
  rw [← h]
  simp [Run.taken_foldr_push, Run.nil]

/-- Behind a comment that begins with two slashes the text ends, or the line. -/
theorem behind_lineComment {prev : Option Char} {y v : Text}
    (h : commentOrStringExpr.toMarked.matchAt? prev ('/' :: '/' :: y ++ v) = some r)
    (hr : r.taken = '/' :: '/' :: y) : v = [] ∨ ∃ v', v = '\n' :: v' := by
  have hy : y = (y ++ v).takeWhile (CharSet.compl (.single '\n')).contains := by
    have := taken_lineComment h
    rw [hr] at this
    simpa using this
  cases v with
  | nil => exact .inl rfl
  | cons c v =>
    have hc : (CharSet.single '\n').contains c := by
      simpa [CharSet.contains] using Marked.not_of_eq_takeWhile hy
    exact .inr ⟨v, by rw [CharSet.contains_single.1 hc]⟩

theorem keepsEntities_commentOrString : commentOrStringRule.KeepsEntities := by
  rintro prev v ⟨_, _, r⟩ hr _
  have hext := Expr.extends_of_matchAt? hr
  refine ⟨hext.takes.foreign (by rfl), fun he => ?_⟩
  have htaken : IsEscaped r.taken := by
    obtain ⟨x, ⟨rfl, hx⟩ | ⟨rfl, hx⟩⟩ :=
      run_of_either_group hext (fun _ => ⟨rfl, rfl⟩) fun _ => ⟨rfl, rfl⟩
    · rcases Expr.takes_alt.1 hx with hline | hblock
      · obtain ⟨y, rfl⟩ := takes_lineComment hline
        rcases behind_lineComment hr rfl with rfl | ⟨v', rfl⟩
        · simpa using he
        · exact (he.cut_of_head (by decide)).1
      · exact (he.cut_of_settled (hblock.settled (by rfl))).1
    · exact (he.cut_of_settled (hx.settled (by rfl))).1
  simpa [commentOrStringRule, Emitter.emit, emitCommentOrString, content] using htaken

/-! ### Calls -/

/-- **The run of a call**: the name, and what follows it up to the parenthesis. -/
theorem run_call (h : callExpr.Extends .nil r) :
    ∃ x y, r = ⟨x ++ y, [], [⟨1, x, y⟩, ⟨2, y, []⟩]⟩ ∧ x ≠ [] ∧ Settled x ∧ Settled y := by
  obtain ⟨x, y, hr, hx, hy⟩ := run_of_groups h (fun _ => ⟨rfl, rfl⟩) fun _ => ⟨rfl, rfl⟩
  exact ⟨x, y, hr, hx.ne_nil (by rfl), hx.settled (by rfl), hy.settled (by rfl)⟩

theorem emitCall_run (x y : Text) :
    emitCall ⟨x ++ y, [], [⟨1, x, y⟩, ⟨2, y, []⟩]⟩ = [.span .function x, .text y] := rfl

theorem spells_call : callRule.Spells := by
  refine spells_custom fun r hr => ?_
  obtain ⟨x, y, rfl, hx, -, -⟩ := run_call hr
  rw [emitCall_run]
  exact ⟨by simp [content], by simp [IsSolid, hx]⟩

theorem keepsEntities_call : callRule.KeepsEntities := by
  refine keepsEntities_custom (by rfl) fun v r hr he => ?_
  obtain ⟨x, y, rfl, -, hx, hy⟩ := run_call hr
  rw [emitCall_run]
  simpa [content] using he.cut_of_settled_append hx hy

end Script

open Script in
/-- **The rules of the script language spell out their matches and keep entities.** -/
theorem keepsEntities_script : script.KeepsEntities := by
  intro rule hrule
  simp only [script, List.mem_cons, List.not_mem_nil, or_false] at hrule
  rcases hrule with rfl | rfl | rfl | rfl | rfl | rfl | rfl
  · exact ⟨spells_commentOrString, keepsEntities_commentOrString⟩
  · exact ⟨Rule.spells_wrap rfl, keepsEntities_wrap (by rfl) (by rfl)⟩
  · exact ⟨Rule.spells_wrap rfl, keepsEntities_wrap (by rfl) (by rfl)⟩
  · exact ⟨Rule.spells_wrap rfl, keepsEntities_wrap (by rfl) (by rfl)⟩
  · exact ⟨spells_call, keepsEntities_call⟩
  · exact ⟨Rule.spells_wrap rfl, keepsEntities_wrap (by rfl) (by rfl)⟩
  · exact ⟨Rule.spells_wrap rfl, keepsEntities_wrap (by rfl) (by rfl)⟩

end CodeMarkup.Language
