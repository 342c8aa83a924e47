import CodeMarkup.Proofs.Toml.Values

/-!
# Reading undoes writing, for documents

A document that is written is read as the same document, whatever its sections and its
values are (`CodeMarkup.Toml.Document.read?_write?`). All that is asked of it is that its
keys and headers have parts, and not too many (`CodeMarkup.Toml.Document.Named`): no
text writes an empty key, and a reader takes no more than 79 parts.

A text is read line by line, so what is shown is that the text of a document is made of
lines which say what the document has (`CodeMarkup.Toml.Lined`). The empty lines between
sections say nothing, and get lost on the way back.
-/

namespace CodeMarkup.Toml

/-! ### Lines -/

/-- That a text is made of lines, each of which says something whatever comes behind it. -/
inductive Lined : Text → List Line → Prop where
  /-- No lines. -/
  | nil : Lined [] []
  /-- A line, and those behind it. -/
  | cons {w t : Text} {line : Line} {ls : List Line} (hne : w ≠ [])
      (hline : ∀ r, line? (w ++ r) = some (line, r)) (hrest : Lined t ls) :
      Lined (w ++ t) (line :: ls)

theorem Lined.single {w : Text} {line : Line} (hne : w ≠ [])
    (hline : ∀ r, line? (w ++ r) = some (line, r)) : Lined w [line] := by
  simpa using Lined.cons hne hline .nil

theorem Lined.append {s t : Text} {ls ms : List Line} (hs : Lined s ls) (ht : Lined t ms) :
    Lined (s ++ t) (ls ++ ms) := by
  induction hs with
  | nil => exact ht
  | cons hne hline _ ih =>
    rw [List.append_assoc]
    exact .cons hne hline ih

theorem lines?_succ {t : Text} (hne : t ≠ []) (n : Nat) :
    lines? (n + 1) t =
      match line? t with
      | some (line, r) => (lines? n r).map (line :: ·)
      | none => none := by
  cases t with
  | nil => exact absurd rfl hne
  | cons c t => rfl

/-- **A text that is made of lines is read as these lines.** -/
theorem Lined.lines? {t : Text} {ls : List Line} (h : Lined t ls) {n : Nat} (hn : t.length ≤ n) :
    lines? n t = some ls := by
  induction h generalizing n with
  | nil => cases n <;> rfl
  | @cons w t line ls hne hline _ ih =>
    have hlength : 0 < w.length := List.length_pos_iff.2 hne
    rw [List.length_append] at hn
    obtain ⟨n, rfl⟩ := Nat.exists_eq_succ_of_ne_zero (n := n) (by omega)
    rw [lines?_succ (by simp [hne]), hline]
    dsimp only
    rw [ih (by omega)]
    rfl

/-- No line begins with a byte order mark. -/
theorem line?_mark (t : Text) : line? ('\ufeff' :: t) = none := rfl

theorem Lined.ne_mark {t : Text} {ls : List Line} (h : Lined t ls) (t' : Text) :
    t ≠ '\ufeff' :: t' := by
  cases h with
  | nil => exact fun h => by cases h
  | @cons w t line ls hne hline _ =>
    intro heq
    have hread := hline t
    rw [heq, line?_mark] at hread
    cases hread

/-! ### Single lines -/

/-- That a key, or the path of a header, has parts, and no more than a reader takes. -/
def IsKey (key : List String) : Prop := key ≠ [] ∧ key.length < depthLimit

theorem head_documentKey {key : List String} (hne : key ≠ []) :
    ∃ c u, Document.writeKey key = c :: u ∧ IsKeyStart c := by
  cases key with
  | nil => exact absurd rfl hne
  | cons part parts =>
    obtain ⟨c, u, hu, hc⟩ := head_writeKey part.toList
    cases parts with
    | nil => exact ⟨c, u, hu, hc⟩
    | cons part' parts =>
      refine ⟨c, u ++ ['.'] ++ Document.writeKey (part' :: parts), ?_, hc⟩
      change Toml.writeKey part.toList ++ ['.'] ++ _ = _
      rw [hu]
      rfl

/-- A value that is written begins with no white space. -/
theorem head_writeValue? {v : Datum} {w : Text} (h : Document.writeValue? v = some w) :
    ∃ c u, w = c :: u ∧ isBlank c = false := by
  cases v with
  | bool b =>
    cases b
    · cases h
      exact ⟨'f', _, rfl, rfl⟩
    · cases h
      exact ⟨'t', _, rfl, rfl⟩
  | nat n =>
    rw [Document.writeValue?] at h
    split at h
    · cases h
      obtain ⟨d, ds, hds, hd⟩ := exists_cons_toDigits n
      refine ⟨d, ds, hds, ?_⟩
      rw [isBlank, Bool.or_eq_false_iff, decide_eq_false_iff_not, decide_eq_false_iff_not]
      constructor <;> rintro rfl <;> cases hd
    · cases h
  | string s =>
    cases h
    obtain ⟨q, u, hu, hq⟩ := head_writeString s.toList
    refine ⟨q, u, hu, ?_⟩
    rcases hq with rfl | rfl <;> rfl
  | list vs =>
    obtain ⟨ss, -, rfl⟩ := Option.map_eq_some_iff.1 h
    cases ss with
    | nil => exact ⟨'[', _, rfl, rfl⟩
    | cons s ss => cases ss <;> exact ⟨'[', _, rfl, rfl⟩
  | null => cases h
  | table entries => cases h
  | other => cases h

theorem line?_blank (r : Text) : line? ('\n' :: r) = some (.blank, r) := rfl

/-- A line that begins with a key has a value. -/
theorem content?_of_keyed {c : Char} {t r : Text} {key : List String} {v : Datum}
    (hc : IsKeyStart c) (hread : keyed? value? (c :: t) = some ((key, v), r)) :
    content? (c :: t) = some (.entry key v, r) := by
  have hl : c ≠ '[' := hc.ne rfl (by decide) (by decide)
  have hcomment : ¬(c = '#' ∨ c = '\n' ∨ c = '\r') := by
    rintro (h | h | h)
    · exact hc.ne rfl (by decide) (by decide) h
    · exact hc.ne rfl (by decide) (by decide) h
    · exact hc.ne rfl (by decide) (by decide) h
  rw [content?, skipBlanks_of_head hc.isBlank_eq_false]
  split
  · next h => cases h
  · next h =>
    injection h with h _
    exact absurd h hl
  · next h =>
    injection h with h _
    exact absurd h hl
  · next h =>
    cases h
    rw [if_neg hcomment, hread]
    rfl

/-- A line that begins with one bracket and a key has the header of a table. -/
theorem content?_of_bracket {c : Char} {t r : Text} {path : List String} (hc : IsKeyStart c)
    (hread : key? (c :: t) = some (path, ']' :: r)) :
    content? ('[' :: c :: t) = some (.header path false, r) := by
  have hl : c ≠ '[' := hc.ne rfl (by decide) (by decide)
  rw [content?, skipBlanks_of_head rfl]
  split
  · next h => cases h
  · next h =>
    injection h with _ h
    injection h with h _
    exact absurd h hl
  · next h =>
    cases h
    simp only [hread]
  · next hne h =>
    cases h
    exact (hne rfl).elim

/-- A key is read up to the equals sign behind it, and its value up to the end of the line. -/
theorem keyed?_writeKey {key : List String} (hkey : IsKey key) {v : Datum} {u : Text}
    (hu : Document.writeValue? v = some u) (r : Text) :
    keyed? value? (Document.writeKey key ++ ' ' :: '=' :: ' ' :: (u ++ '\n' :: r)) =
      some ((key, v), '\n' :: r) := by
  have hskip : skipBlanks (' ' :: (u ++ '\n' :: r)) = u ++ '\n' :: r := by
    obtain ⟨d, t, ht, hd⟩ := head_writeValue? hu
    rw [ht]
    exact skipBlanks_of_head hd _
  rw [keyed?, key?_writeKey hkey.1 hkey.2 (by rintro c ⟨⟩; rfl) (by simp [skipBlanks, isBlank])]
  change (value? (skipBlanks (' ' :: (u ++ '\n' :: r)))).map _ = _
  rw [hskip, value?_writeValue? hu]
  rfl

theorem line?_of_content? {t r : Text} {line : Line} (h : content? t = some (line, '\n' :: r)) :
    line? t = some (line, r) := by
  rw [line?, h]
  rfl

/-- **The line of a key and its value** is read as them. -/
theorem line?_writeLine? {e : List String × Datum} {w : Text} (hkey : IsKey e.1)
    (h : Document.writeLine? e = some w) (r : Text) :
    line? (w ++ r) = some (.entry e.1 e.2, r) := by
  obtain ⟨u, hu, rfl⟩ := Option.map_eq_some_iff.1 h
  obtain ⟨c, t, ht, hc⟩ := head_documentKey hkey.1
  have hread := keyed?_writeKey hkey hu r
  have htext : Document.writeKey e.1 ++ [' ', '=', ' '] ++ u ++ ['\n'] ++ r =
      Document.writeKey e.1 ++ ' ' :: '=' :: ' ' :: (u ++ '\n' :: r) := by
    simp
  rw [htext]
  rw [ht, List.cons_append] at hread ⊢
  exact line?_of_content? (content?_of_keyed hc hread)

/-- **The line of a header** is read as the header. -/
theorem line?_writeHeader {path : List String} (hpath : IsKey path) (isElement : Bool) (r : Text) :
    line? (Document.writeHeader path isElement ++ r) = some (.header path isElement, r) := by
  have hread : ∀ u : Text, key? (Document.writeKey path ++ ']' :: u) = some (path, ']' :: u) := by
    intro u
    rw [key?_writeKey hpath.1 hpath.2 (by rintro c ⟨⟩; rfl) (by simp [skipBlanks, isBlank])]
    rfl
  refine line?_of_content? ?_
  cases isElement with
  | true =>
    have htext : Document.writeHeader path true ++ r =
        '[' :: '[' :: (Document.writeKey path ++ ']' :: ']' :: '\n' :: r) := by
      simp [Document.writeHeader]
    rw [htext, content?, skipBlanks_of_head rfl]
    simp only [hread]
  | false =>
    have htext : Document.writeHeader path false ++ r =
        '[' :: (Document.writeKey path ++ ']' :: '\n' :: r) := by
      simp [Document.writeHeader]
    obtain ⟨c, t, ht, hc⟩ := head_documentKey hpath.1
    have hread := hread ('\n' :: r)
    rw [htext]
    rw [ht, List.cons_append] at hread ⊢
    exact content?_of_bracket hc hread

/-! ### Rows of lines -/

/-- What the line of a key and its value says. -/
def Line.ofEntry (e : List String × Datum) : Line := .entry e.1 e.2

/-- What the lines of a section say. -/
def Section.lines (s : Section) : List Line := .header s.path s.isElement :: s.entries.map .ofEntry

/-- That a section has a name that can be read, and so have the values in it. -/
structure Section.Named (s : Section) : Prop where
  /-- The header can be read. -/
  path : IsKey s.path
  /-- All keys can be read. -/
  entries : ∀ e ∈ s.entries, IsKey e.1

theorem Lined.eq_nil {ls : List Line} (h : Lined [] ls) : ls = [] := by
  generalize ht : ([] : Text) = t at h
  cases h with
  | nil => rfl
  | cons hne _ _ => exact absurd (List.append_eq_nil_iff.1 ht.symm).1 hne

theorem lined_writeLines? {entries : List (List String × Datum)} {t : Text}
    (hkeys : ∀ e ∈ entries, IsKey e.1) (h : Document.writeLines? entries = some t) :
    Lined t (entries.map .ofEntry) := by
  obtain ⟨ws, hws, rfl⟩ := Option.map_eq_some_iff.1 h
  clear h
  rw [mapM_eq_some_iff] at hws
  induction hws with
  | nil => exact .nil
  | @cons e w entries ws hw _ ih =>
    have hne : w ≠ [] := by
      obtain ⟨u, -, rfl⟩ := Option.map_eq_some_iff.1 hw
      simp
    exact .cons hne (line?_writeLine? (hkeys e List.mem_cons_self) hw)
      (ih fun e he => hkeys e (List.mem_cons_of_mem _ he))

theorem lined_writeSection? {s : Section} {t : Text} (hs : s.Named)
    (h : Document.writeSection? s = some t) : Lined t s.lines := by
  obtain ⟨u, hu, rfl⟩ := Option.map_eq_some_iff.1 h
  refine .cons ?_ (line?_writeHeader hs.path s.isElement) (lined_writeLines? hs.entries hu)
  cases s.isElement <;> simp [Document.writeHeader]

/-- Texts with empty lines between them. -/
theorem Lined.join {ws : List Text} {lss : List (List Line)} (h : List.Forall₂ Lined ws lss) :
    Lined (Text.join ['\n'] ws) ([Line.blank].intercalate lss) := by
  induction h with
  | nil => exact .nil
  | @cons w ls ws lss hw hws ih =>
    cases hws with
    | nil => simpa [Text.join] using hw
    | @cons w' ls' ws lss hw' hws =>
      rw [List.intercalate_cons_cons]
      exact (hw.append (.single (by simp) line?_blank)).append ih

namespace Document

/-! ### What lines make -/

/-- What comes first is made the same way, whatever makes the rest. -/
theorem ofLines_append_congr {ms ms' : List Line} (h : ofLines ms = ofLines ms') (ls : List Line) :
    ofLines (ls ++ ms) = ofLines (ls ++ ms') := by
  induction ls with
  | nil => exact h
  | cons line ls ih =>
    cases line with
    | blank => exact ih
    | entry key v =>
      rw [List.cons_append, List.cons_append, ofLines, ofLines, ih]
    | header path isElement =>
      rw [List.cons_append, List.cons_append, ofLines, ofLines, ih]

/-- Empty lines between others do not count. -/
theorem ofLines_intercalate (lss : List (List Line)) :
    ofLines ([Line.blank].intercalate lss) = ofLines lss.flatten := by
  induction lss with
  | nil => rfl
  | cons ls lss ih =>
    cases lss with
    | nil => simp
    | cons ls' lss =>
      rw [List.intercalate_cons_cons, List.append_assoc, List.flatten_cons]
      have hblank : ofLines ([.blank] ++ [Line.blank].intercalate (ls' :: lss)) =
          ofLines (ls' :: lss).flatten := ih
      exact ofLines_append_congr hblank ls

theorem ofLines_entries (entries : List (List String × Datum)) (ls : List Line) :
    ofLines (entries.map .ofEntry ++ ls) =
      ⟨entries ++ (ofLines ls).entries, (ofLines ls).sections⟩ := by
  induction entries with
  | nil => rfl
  | cons e entries ih =>
    rw [List.map_cons, List.cons_append, Line.ofEntry, ofLines, ih]
    rfl

theorem ofLines_sections (sections : List Section) :
    ofLines (sections.flatMap Section.lines) = ⟨[], sections⟩ := by
  induction sections with
  | nil => rfl
  | cons s sections ih =>
    rw [List.flatMap_cons, Section.lines, List.cons_append, ofLines, ofLines_entries, ih]
    simp

/-- The lines of a document make the document. -/
theorem ofLines_document (d : Document) :
    ofLines (d.entries.map .ofEntry ++ d.sections.flatMap Section.lines) = d := by
  rw [ofLines_entries, ofLines_sections, List.append_nil]

/-! ### Documents -/

/-- That all keys and headers of a document can be read. -/
structure Named (d : Document) : Prop where
  /-- The keys before the first header can be read. -/
  entries : ∀ e ∈ d.entries, IsKey e.1
  /-- The sections can be read. -/
  sections : ∀ s ∈ d.sections, s.Named

theorem lined_writeSections? {sections : List Section} {ws : List Text}
    (hs : ∀ s ∈ sections, s.Named) (h : sections.mapM writeSection? = some ws) :
    List.Forall₂ Lined ws (sections.map Section.lines) := by
  rw [mapM_eq_some_iff] at h
  induction h with
  | nil => exact .nil
  | @cons s w sections ws hw _ ih =>
    exact .cons (lined_writeSection? (hs s List.mem_cons_self) hw)
      (ih fun s h => hs s (List.mem_cons_of_mem _ h))

theorem isSome_writeLines?_iff {entries : List (List String × Datum)} :
    (writeLines? entries).isSome ↔ ∀ e ∈ entries, (writeValue? e.2).isSome := by
  simp only [writeLines?, Option.isSome_map, isSome_mapM_iff, writeLine?]

/-- **A document is written** if and only if all of its values can be. -/
theorem isSome_write?_iff {d : Document} :
    d.write?.isSome ↔ (∀ e ∈ d.entries, (writeValue? e.2).isSome) ∧
      ∀ s ∈ d.sections, ∀ e ∈ s.entries, (writeValue? e.2).isSome := by
  have hsections : (d.sections.mapM writeSection?).isSome ↔
      ∀ s ∈ d.sections, ∀ e ∈ s.entries, (writeValue? e.2).isSome := by
    simp only [isSome_mapM_iff, writeSection?, Option.isSome_map, isSome_writeLines?_iff]
  rw [← isSome_writeLines?_iff, ← hsections, write?]
  cases writeLines? d.entries <;> cases d.sections.mapM writeSection? <;> simp

/-- What is written for a document is made of lines that make the document. -/
theorem lined_write? {d : Document} (hd : d.Named) {t : Text} (h : d.write? = some t) :
    ∃ ls, Lined t ls ∧ ofLines ls = d := by
  obtain ⟨front, hfront, h⟩ := Option.bind_eq_some_iff.1 h
  obtain ⟨ws, hws, h⟩ := Option.bind_eq_some_iff.1 h
  obtain rfl : Text.join ['\n'] (if front = [] then ws else front :: ws) = t := by simpa using h
  have hlines := lined_writeLines? hd.entries hfront
  have hsections := lined_writeSections? hd.sections hws
  have hdocument := ofLines_document d
  split
  · next hnil =>
    -- Nothing stands before the first header.
    subst hnil
    refine ⟨_, .join hsections, ?_⟩
    rwa [ofLines_intercalate, ← List.flatMap_def, ← List.nil_append (List.flatMap _ _),
      ← hlines.eq_nil]
  · refine ⟨_, .join (.cons hlines hsections), ?_⟩
    rwa [ofLines_intercalate, List.flatten_cons, ← List.flatMap_def]

/-- **Reading undoes writing**, for documents. -/
theorem read?_write? {d : Document} (hd : d.Named) {t : Text} (h : d.write? = some t) :
    read? t = some d := by
  obtain ⟨ls, hls, rfl⟩ := lined_write? hd h
  have hread : ∀ t' : Text, t' = t →
      (Toml.lines? t'.length t').map ofLines = some (ofLines ls) := by
    rintro _ rfl
    rw [hls.lines? (Nat.le_refl _)]
    rfl
  unfold read?
  split
  · next t' => exact absurd rfl (hls.ne_mark t')
  · exact hread t rfl

end Document

end CodeMarkup.Toml
