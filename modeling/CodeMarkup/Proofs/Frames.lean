import CodeMarkup.Frame
import CodeMarkup.Proofs.Highlighter

/-!
# A frame speaks of the lines of its text

What an editing surface shows is computed in four places: the markup by the highlighter, and the
numbers of the lines, their count and the place of the caret from the text. **All four speak
of the same lines** (`CodeMarkup.Frame.speaksOf_render`):

* there is one line more than the text has line feeds, and the numbers are those from one on;
* the line of the caret is one of them;
* the markup has the line feeds of the text and no others, and without its tags its lines are
  those of the text, escaped one by one.

The last point rests on two facts. A line feed is written as it is, so escaping goes line by
line (`CodeMarkup.lines_escape`); and a tag has no line feed, so the line feeds of the markup are
those of the pieces (`CodeMarkup.Piece.count_renderAll`).
-/

namespace CodeMarkup

open Markup Piece

/-! ### Cutting -/

namespace Text

/-- The parts of a text between the occurrences of a word, which are looked for from left to right
behind the first `skip` characters. -/
def splitOnWordFrom (word : Text) : Nat → Text → List Text
  | _, [] => [[]]
  | skip + 1, _ :: t => splitOnWordFrom word skip t
  | 0, c :: t =>
    if word.isPrefixOf (c :: t) then [] :: splitOnWordFrom word (word.length - 1) t
    else (splitOnWordFrom word 0 t).modifyHead (c :: ·)

/-- The parts of a text between the occurrences of a word. -/
def splitOnWord (word t : Text) : List Text := splitOnWordFrom word 0 t

example : splitOnWord "aa".toList "aaabaa".toList = [[], "ab".toList, []] := by decide

theorem splitOnWordFrom_length (word s t : Text) :
    splitOnWordFrom word s.length (s ++ t) = splitOnWord word t := by
  induction s with
  | nil => rfl
  | cons c s ih => exact ih

section Word

variable {d : Char} {w : Text}

/-- An occurrence at the beginning ends an empty part. -/
theorem splitOnWord_self_append (t : Text) :
    splitOnWord (d :: w) (d :: w ++ t) = [] :: splitOnWord (d :: w) t := by
  have hbegins : (d :: w).isPrefixOf (d :: (w ++ t)) = true := by simp
  rw [List.cons_append, splitOnWord, splitOnWordFrom, if_pos hbegins]
  exact congrArg ([] :: ·) (splitOnWordFrom_length _ w t)

/-- Characters with which the word does not begin belong to the first part. -/
theorem splitOnWord_append_of_not_mem {s : Text} (h : d ∉ s) (t : Text) :
    splitOnWord (d :: w) (s ++ t) = (splitOnWord (d :: w) t).modifyHead (s ++ ·) := by
  induction s with
  | nil => exact (congrFun List.modifyHead_id _).symm
  | cons c s ih =>
    obtain ⟨hc, hs⟩ : d ≠ c ∧ d ∉ s := by simpa using h
    -- Nothing is found here, since the word begins with another character.
    have hbegins : ¬(d :: w).isPrefixOf (c :: (s ++ t)) = true := by simp [hc]
    rw [List.cons_append, splitOnWord, splitOnWordFrom, if_neg hbegins]
    have ih := ih hs
    rw [splitOnWord] at ih
    rw [ih, List.modifyHead_modifyHead]
    rfl

/-- **Joining and cutting**: parts that do not have the first character of the word are found again
between its occurrences. -/
theorem splitOnWord_join {parts : List Text} (hne : parts ≠ []) (h : ∀ part ∈ parts, d ∉ part) :
    splitOnWord (d :: w) (join (d :: w) parts) = parts := by
  induction parts with
  | nil => exact absurd rfl hne
  | cons part parts ih =>
    obtain ⟨hpart, hparts⟩ := List.forall_mem_cons.1 h
    cases parts with
    | nil =>
      have hlast := splitOnWord_append_of_not_mem (w := w) hpart []
      simpa [join, splitOnWord, splitOnWordFrom] using hlast
    | cons next parts =>
      have hjoin : join (d :: w) (part :: next :: parts) =
          part ++ (d :: w ++ join (d :: w) (next :: parts)) := List.append_assoc _ _ _
      rw [hjoin, splitOnWord_append_of_not_mem hpart, splitOnWord_self_append,
        ih (List.cons_ne_nil _ _) hparts]
      simp

end Word

theorem splitOn_cons_eq_modifyHead {sep c : Char} (h : c ≠ sep) (t : Text) :
    splitOn sep (c :: t) = (splitOn sep t).modifyHead (c :: ·) := by
  obtain ⟨part, parts, hparts, hcons⟩ := splitOn_cons_of_ne h t
  rw [hparts, hcons]
  rfl

/-- Characters other than the separator belong to the first part. -/
theorem splitOn_append_of_not_mem {sep : Char} {s : Text} (h : sep ∉ s) (t : Text) :
    splitOn sep (s ++ t) = (splitOn sep t).modifyHead (s ++ ·) := by
  induction s with
  | nil => exact (congrFun List.modifyHead_id _).symm
  | cons c s ih =>
    obtain ⟨hc, hs⟩ : sep ≠ c ∧ sep ∉ s := by simpa using h
    rw [List.cons_append, splitOn_cons_eq_modifyHead hc.symm, ih hs, List.modifyHead_modifyHead]
    rfl

/-- **What is written for the characters of a text can be cut where the text is cut**, if the
separator stands for itself, and is not in what is written for another character. -/
theorem splitOn_flatMap {sep : Char} {f : Char → Text} (hsep : f sep = [sep])
    (hf : ∀ c ≠ sep, sep ∉ f c) (t : Text) :
    splitOn sep (t.flatMap f) = (splitOn sep t).map (·.flatMap f) := by
  induction t with
  | nil => rfl
  | cons c t ih =>
    by_cases hc : c = sep
    · subst hc
      simp [hsep, ih]
    · obtain ⟨part, parts, hparts, hcons⟩ := splitOn_cons_of_ne hc t
      rw [List.flatMap_cons, splitOn_append_of_not_mem (hf c hc), ih, hparts, hcons]
      simp

end Text

/-! ### Lines -/

/-- There is one line more than there are line feeds. -/
theorem lineCount_eq (text : Text) : lineCount text = text.count '\n' + 1 :=
  Text.length_splitOn '\n' text

/-- **Escaping goes line by line.** -/
theorem lines_escape (text : Text) : lines (escape text) = (lines text).map escape := by
  have hentity : ∀ e : Entity, '\n' ∉ e.text := by
    intro e
    cases e <;> decide
  refine Text.splitOn_flatMap rfl (fun c hc => ?_) text
  rw [escapeChar]
  cases Entity.ofChar? c with
  | none => simpa using hc.symm
  | some e => exact hentity e

/-- Escaping makes no line feeds and loses none. -/
theorem count_escape (text : Text) : (escape text).count '\n' = text.count '\n' := by
  -- The lines are as many, and there is one line feed less than there are lines.
  have hcount : lineCount (escape text) = lineCount text := by
    rw [lineCount, lines_escape, List.length_map, lineCount]
  rw [lineCount_eq, lineCount_eq] at hcount
  exact Nat.succ_injective hcount

/-- **The numbers of the lines are those from one on.** -/
theorem splitOnWord_numbering (text : Text) :
    Text.splitOnWord "<br>".toList (numbering text) =
      (List.range (lineCount text)).map fun i => Nat.toDigits 10 (i + 1) := by
  refine Text.splitOnWord_join (d := '<') ?_ fun part hpart => ?_
  · rw [lineCount_eq]
    simp
  · -- A numeral has digits only, so no break begins in it.
    obtain ⟨i, -, rfl⟩ := List.mem_map.1 hpart
    intro hmem
    have hdigit := Nat.isDigit_of_mem_toDigits (by decide) (by decide) hmem
    exact absurd hdigit (by decide)

/-- The line of the caret is counted by the line feeds before it. -/
theorem Caret.line_atOffset (text : Text) (offset : Nat) :
    (Caret.atOffset text offset).line = (text.take offset).count '\n' + 1 :=
  lineCount_eq (text.take offset)

/-- **The caret is on one of the lines.** -/
theorem Caret.line_atOffset_mem (text : Text) (offset : Nat) :
    1 ≤ (Caret.atOffset text offset).line ∧
      (Caret.atOffset text offset).line ≤ lineCount text := by
  rw [Caret.line_atOffset, lineCount_eq]
  exact ⟨Nat.le_add_left _ _,
    Nat.succ_le_succ ((List.take_sublist offset text).count_le '\n')⟩

/-! ### The line feeds of markup -/

namespace Piece

variable {classPrefix : Text}

theorem IsPrefix.count_openTag (hP : IsPrefix classPrefix) (k : SpanClass) :
    (openTag classPrefix k).count '\n' = 0 := by
  have hstart : '\n' ∉ spanStart := by decide
  have hprefix : '\n' ∉ classPrefix := fun h => absurd (hP _ h) (by decide)
  have hname : '\n' ∉ k.name.toList := fun h =>
    absurd (SpanClass.isAlphanum_of_mem_name h) (by decide)
  rw [List.count_eq_zero]
  simp [openTag, hstart, hprefix, hname]

/-- **The line feeds of the markup are those of the pieces**: no tag has one. -/
theorem count_renderAll (hP : IsPrefix classPrefix) {ps : List Piece} (hps : ∀ p ∈ ps, p.IsPlain) :
    (renderAll classPrefix ps).count '\n' = (contents ps).count '\n' := by
  induction ps with
  | nil => rfl
  | cons p ps ih =>
    obtain ⟨hp, hps⟩ := List.forall_mem_cons.1 hps
    rw [renderAll_cons, contents_cons, List.count_append, List.count_append, ih hps]
    congr 1
    cases p with
    | text t => rfl
    | span k t =>
      have hend : spanEnd.count '\n' = 0 := by decide
      simp [render_span, content, hP.count_openTag k, hend]
    | markup t => cases hp

end Piece

namespace Highlighter

variable {h : Highlighter}

/-- **What a sound highlighter gives back is the markup of pieces** that hold the escaped text, all
of them texts or spans. -/
theorem Sound.exists_pieces (hs : h.Sound) (calls : List Call) (text : Text) (language : String) :
    ∃ ps : List Piece, (∀ p ∈ ps, p.IsPlain) ∧ (∀ p ∈ ps, '<' ∉ p.content) ∧
      contents ps = escape text ∧
      ((h.run calls).highlight text language).1 =
        renderAll h.settings.classPrefix.toList ps := by
  rcases hs.fst_highlight_run calls text language with ⟨-, he⟩ | ⟨set, -, ho, he⟩
  · -- A text that is only escaped is one piece.
    have hcontents : contents [.text (escape text)] = escape text := List.append_nil _
    refine ⟨[.text (escape text)], ?_, ?_, hcontents, ?_⟩
    · simp [IsPlain]
    · intro p hp hc
      exact ((isEscaped_escape text).ne_angle (hcontents ▸ mem_contents hp hc)).1 rfl
    · rw [he]
      exact (List.append_nil _).symm
  · exact ⟨set.apply (escape text), fun p hp => (RuleSet.solid_apply ho.spells _ p hp).isPlain,
      fun p hp hc => (ho.spells.ne_angle hp hc).1 rfl, RuleSet.contents_apply ho.spells _, he⟩

end Highlighter

/-! ### Main statement -/

namespace Frame

/-- That the parts of a frame speak of the lines of a text. -/
structure SpeaksOf (f : Frame) (text : Text) : Prop where
  /-- There is one line more than there are line feeds. -/
  lineCount_eq : f.lineCount = text.count '\n' + 1
  /-- The gutter has the numbers of the lines in order. -/
  gutter_eq : Text.splitOnWord "<br>".toList f.gutter =
    (List.range f.lineCount).map fun i => Nat.toDigits 10 (i + 1)
  /-- The caret is on one of the lines. -/
  line_mem : 1 ≤ f.cursor.line ∧ f.cursor.line ≤ f.lineCount
  /-- The markup has one line feed less than there are lines. -/
  count_markup : f.markup.count '\n' = f.lineCount - 1
  /-- Without tags, the lines of the markup are the lines of the text, escaped. -/
  lines_markup : lines (strip f.markup) = (lines text).map escape

variable {h : Highlighter}

/-- **All parts of a frame speak of the lines of its text**, whatever has been called before. -/
theorem speaksOf_render (hm : h.Made) (calls : List Highlighter.Call) (text : Text)
    (language : String) (caret : Nat) :
    (Frame.render (h.run calls) text language caret).1.SpeaksOf text := by
  have hs := hm.sound
  obtain ⟨ps, hplain, hangle, hcontents, hmarkup⟩ := hs.exists_pieces calls text language
  constructor
  case lineCount_eq => exact CodeMarkup.lineCount_eq text
  case gutter_eq => exact splitOnWord_numbering text
  case line_mem => exact Caret.line_atOffset_mem text caret
  case count_markup =>
    change ((h.run calls).highlight text language).1.count '\n' =
      CodeMarkup.lineCount text - 1
    rw [hmarkup, count_renderAll hs.isPrefix hplain, hcontents, count_escape,
      CodeMarkup.lineCount_eq, Nat.add_sub_cancel]
  case lines_markup =>
    change lines (strip ((h.run calls).highlight text language).1) = _
    rw [hmarkup, strip_renderAll hs.isPrefix hplain hangle, hcontents, lines_escape]

/-- A comment over two lines, with the caret on the second one. -/
theorem speaksOf_render_comment :
    Highlighter.default.Made ∧
      (Frame.render (Highlighter.default.run []) "/* a\n & b */".toList "css" 7).1.SpeaksOf
        "/* a\n & b */".toList :=
  ⟨.default, speaksOf_render .default _ _ _ _⟩

end Frame

end CodeMarkup
