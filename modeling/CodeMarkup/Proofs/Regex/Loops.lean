import CodeMarkup.Proofs.Regex.Search

/-!
# Loops as scans

The search goes back when a way fails, and a loop offers a way more for each round of it. The
loops of comments and strings come to scans that never go back.

* A lazy loop over any character ends where what follows it matches for the first time; before a
  word it takes the text **through the first occurrence of the word**
  (`CodeMarkup.Regex.Marked.search_loop_all`, `CodeMarkup.Text.throughFirst?`).
* In the loop between two quotes the next character tells which way there is: a quote ends the
  loop, a backslash takes one character more, and any other character is taken by itself. So the
  loop takes the text **through the first quote that no backslash stands before**, or fails
  (`CodeMarkup.Regex.Marked.search_quoted`, `CodeMarkup.Text.throughQuote?`).

What follows a loop in both is a word, and then whatever finds one run at all places
(`CodeMarkup.Regex.Onward.word`).
-/

namespace CodeMarkup

namespace Text

/-- The text through the first occurrence of `w`, if there is one. -/
def throughFirst? (w : Text) : Text → Option Text
  | [] => none
  | c :: t => if w.isPrefixOf (c :: t) then some w else (throughFirst? w t).map (c :: ·)

/-- The text through the first quote `q` that no backslash stands before, if there is one. A
backslash may stand before the characters `behind`, and the text between the quotes is made of the
characters `inside` otherwise. -/
def throughQuote? (q : Char) (behind inside : Char → Bool) : Text → Option Text
  | [] => none
  | c :: t =>
    if c = q then some [q]
    else if c = '\\' then
      match t with
      | [] => none
      | d :: t =>
        if behind d then (throughQuote? q behind inside t).map fun x => '\\' :: d :: x else none
    else if inside c then (throughQuote? q behind inside t).map (c :: ·)
    else none

/-- **What stands behind the quote does not matter.** -/
theorem throughQuote?_eq_some {q : Char} {behind inside : Char → Bool} {t x : Text}
    (h : throughQuote? q behind inside t = some x) :
    (∃ u, t = x ++ u) ∧ ∀ v, throughQuote? q behind inside (x ++ v) = some x := by
  fun_induction throughQuote? q behind inside t generalizing x with
  | case1 => cases h
  | case2 t =>
    obtain rfl : [q] = x := Option.some.inj h
    refine ⟨⟨t, rfl⟩, fun v => ?_⟩
    rw [throughQuote?.eq_def]
    simp
  | case3 => cases h
  | case4 d t hd hq ih =>
    obtain ⟨y, hy, rfl⟩ := Option.map_eq_some_iff.1 h
    obtain ⟨⟨u, rfl⟩, hv⟩ := ih hy
    refine ⟨⟨u, rfl⟩, fun v => ?_⟩
    rw [throughQuote?.eq_def]
    simp [hq, hd, hv]
  | case5 => cases h
  | case6 c t hc hs hin ih =>
    obtain ⟨y, hy, rfl⟩ := Option.map_eq_some_iff.1 h
    obtain ⟨⟨u, rfl⟩, hv⟩ := ih hy
    refine ⟨⟨u, rfl⟩, fun v => ?_⟩
    rw [throughQuote?.eq_def]
    simp [hc, hs, hin, hv]
  | case7 => cases h

end Text

namespace Regex

/-- A word, and then the run `r` at any place. -/
def Onward.word (w : Text) (r : Run) : Onward := fun _ t =>
  if w.isPrefixOf t then some (w.foldr Run.push r) else none

theorem Onward.word_nil (r : Run) : Onward.word [] r = fun _ _ => some r := by
  funext prev t
  simp [Onward.word]

/-- The run of a group that takes a text, with nothing behind it. -/
theorem Run.closeGroup_foldr_push (i : Nat) (x : Text) :
    (x.foldr Run.push (Run.nil.openGroup i)).closeGroup i = ⟨x, [], [⟨i, x, []⟩]⟩ := by
  have hpush : x.foldr Run.push (Run.nil.openGroup i) = ⟨x, [⟨i, x, []⟩], []⟩ := by
    induction x with
    | nil => rfl
    | cons c x ih => rw [List.foldr_cons, ih]; rfl
  simp [hpush, Run.closeGroup]

namespace Marked

/-! ### Loops -/

/-- A repetition that may be left out, of an expression that takes something. -/
def loop (greedy : Bool) (a : Marked) : Marked := Expr.choice greedy (plus greedy a) empty

/-- **A loop is a round and then the loop again, or the end.** -/
theorem search_loop {a : Marked} (ha : a.consumes) (greedy : Bool) (k : Onward)
    (prev : Option Char) (t : Text) :
    (loop greedy a).search k prev t =
      Onward.again greedy (a.search ((loop greedy a).search k)) k prev t := by
  have hagain : ∀ prev t, (loop greedy a).search k prev t =
      Onward.again greedy ((plus greedy a).search k) k prev t := by
    cases greedy <;> exact fun _ _ => rfl
  have hround : a.search ((loop greedy a).search k) prev t = (plus greedy a).search k prev t := by
    rw [search_plus ha, funext₂ hagain]
  rw [hagain]
  simp only [Onward.again, hround]

/-! ### Characters one by one -/

theorem search_cat (a b : Marked) (k : Onward) : (cat a b).search k = a.search (b.search k) := rfl

theorem search_alt (a b : Marked) (k : Onward) (prev : Option Char) (t : Text) :
    (alt a b).search k prev t = (a.search k prev t).or (b.search k prev t) := rfl

theorem search_one_nil (s : CharSet) (mark : Option Run) (k : Onward) (prev : Option Char) :
    (one s mark).search k prev [] = none := rfl

theorem search_single_cons (c : Char) (mark : Option Run) (k : Onward) (prev : Option Char)
    (d : Char) (t : Text) :
    (one (.single c) mark).search k prev (d :: t) =
      if d = c then (k (some d) t).map (Run.push c) else none := by
  by_cases h : d = c <;> simp [search, h]

/-- A character before a word. -/
theorem search_single_word (c : Char) (mark : Option Run) (w : Text) (r : Run) :
    (one (.single c) mark).search (.word w r) = .word (c :: w) r := by
  funext prev t
  cases t with
  | nil => rfl
  | cons d t =>
    by_cases h : d = c
    · subst h
      simp [search, Onward.word, apply_ite]
    · have hd : ¬(CharSet.single c).contains d := by simpa using h
      simp [search, Onward.word, hd, Ne.symm h]

/-- **A lazy loop over any character takes all through the first occurrence of the word behind
it**, and fails if there is none. -/
theorem search_loop_all {w : Text} (hw : w ≠ []) (r : Run) (prev : Option Char) (t : Text) :
    (loop false (one .all none)).search (.word w r) prev t =
      (Text.throughFirst? w t).map fun x => x.foldr Run.push r := by
  induction t generalizing prev with
  | nil =>
    rw [search_loop rfl]
    simp [Onward.again, Onward.word, search, Text.throughFirst?, hw]
  | cons c t ih =>
    rw [search_loop rfl]
    simp only [Onward.again, Onward.word, search, CharSet.contains_all, if_true,
      Bool.false_eq_true, if_false, Text.throughFirst?, ih]
    split
    · rfl
    · rw [Option.none_or, Option.map_map, Option.map_map]
      rfl

/-- The loop between two quotes: a backslash with a character behind it, or one character. -/
def quoted (escaped plain : CharSet) : Marked :=
  loop true (alt (cat (one (.single '\\') none) (one escaped none)) (one plain none))

section Quoted

variable {q : Char} {escaped plain : CharSet} {inside : Char → Bool}

/-- **The next character tells the way** through the loop between two quotes. -/
theorem search_quoted_cons (hq : q ≠ '\\')
    (hplain : ∀ c, plain.contains c = (c ≠ q && c ≠ '\\' && inside c)) (r : Run)
    (prev : Option Char) (c : Char) (t : Text) :
    (quoted escaped plain).search (.word [q] r) prev (c :: t) =
      if c = q then some (r.push q)
      else if c = '\\' then
        ((one escaped none).search ((quoted escaped plain).search (.word [q] r)) (some '\\') t).map
          (Run.push '\\')
      else if inside c then
        ((quoted escaped plain).search (.word [q] r) (some c) t).map (Run.push c)
      else none := by
  have hstep := search_loop (a := alt (cat (one (.single '\\') none) (one escaped none))
    (one plain none)) rfl true (.word [q] r) prev (c :: t)
  rw [quoted, hstep, ← quoted]
  simp only [Onward.again, Onward.word, search, hplain, if_true]
  by_cases hc : c = q
  · subst hc
    simp [hq]
  · by_cases hs : c = '\\'
    · subst hs
      simp [hq, hq.symm]
    · simp [hc, hs, Ne.symm hc]

/-- **The loop between two quotes takes all through the first quote that no backslash stands
before**, and fails if there is none, or if it meets a character that is not allowed. -/
theorem search_quoted (hq : q ≠ '\\')
    (hplain : ∀ c, plain.contains c = (c ≠ q && c ≠ '\\' && inside c)) (r : Run)
    (prev : Option Char) (t : Text) :
    (quoted escaped plain).search (.word [q] r) prev t =
      (Text.throughQuote? q escaped.contains inside t).map fun x => x.foldr Run.push r := by
  have hcons := @search_quoted_cons q escaped plain inside hq hplain r
  fun_induction Text.throughQuote? q escaped.contains inside t generalizing prev with
  | case1 =>
    rw [quoted, search_loop rfl]
    rfl
  | case2 => simp [hcons]
  | case3 => simp [hcons, hq.symm, search]
  | case4 d t hd _ ih =>
    simp only [hcons, hq.symm, search, hd, ih, if_true, if_false, Option.map_map]
    rfl
  | case5 d t hd => simp [hcons, hq.symm, search, hd]
  | case6 c t hc hs hin ih =>
    simp only [hcons, hc, hs, hin, ih, if_true, if_false, Option.map_map]
    rfl
  | case7 c t hc hs hin => simp [hcons, hc, hs, hin]

/-- A quote, and what is behind it through the next such quote. -/
def enclosed (q : Char) (escaped plain : CharSet) : Marked :=
  cat (one (.single q) none) (cat (quoted escaped plain) (one (.single q) none))

/-- **Behind a quote all is taken through the next such quote** that no backslash stands before. -/
theorem search_enclosed (hq : q ≠ '\\')
    (hplain : ∀ c, plain.contains c = (c ≠ q && c ≠ '\\' && inside c)) (r : Run)
    (prev : Option Char) (t : Text) :
    (enclosed q escaped plain).search (.word [] r) prev (q :: t) =
      ((Text.throughQuote? q escaped.contains inside t).map (q :: ·)).map
        (·.foldr Run.push r) := by
  rw [enclosed, search_cat, search_cat, search_single_word, search_single_cons,
    search_quoted hq hplain, if_pos rfl, Option.map_map, Option.map_map]
  rfl

theorem search_enclosed_of_ne {t : Text} (h : ∀ u, t ≠ q :: u) (k : Onward)
    (prev : Option Char) : (enclosed q escaped plain).search k prev t = none := by
  rw [enclosed, search_cat]
  cases t with
  | nil => rfl
  | cons c t => rw [search_single_cons, if_neg fun hc => h t (by rw [hc])]

end Quoted

/-! ### Groups -/

/-- **A group takes what its expression takes**, where this finds the same text before any run. -/
theorem search_group {a : Marked} {prev : Option Char} {t : Text} {x : Option Text}
    (h : ∀ r, a.search (.word [] r) prev t = x.map (·.foldr Run.push r)) (i : Nat) :
    (group i a).search .arrive prev t = x.map fun x => ⟨x, [], [⟨i, x, []⟩]⟩ := by
  have hgroup : (group i a).search .arrive prev t =
      (a.search (.word [] (Run.nil.openGroup i)) prev t).map (Run.closeGroup i) := by
    rw [Onward.word_nil]
    rfl
  rw [hgroup, h, Option.map_map]
  exact congrFun (congrArg Option.map (funext (Run.closeGroup_foldr_push i))) x

end Marked

end Regex

end CodeMarkup
