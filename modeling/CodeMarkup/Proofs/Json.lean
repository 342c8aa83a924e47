import CodeMarkup.Json.Reader
import CodeMarkup.Json.Writer
import CodeMarkup.Proofs.Numerals
import CodeMarkup.Proofs.Rows

/-!
# Reading undoes writing, for JSON

A text is *written for* a value (`CodeMarkup.Json.WrittenFor`) if it is read as the value wherever
it stands in front of something that no number goes on with. This holds of nothing, of
quoted texts and of numbers, and it is handed on from values to the table that has them
behind its keys (`CodeMarkup.Json.writtenFor_object`), so a written form with tables in
tables is dealt with table by table.

A reader looks to a bounded depth. What is written for a value is read at any greater depth
than that to which tables are nested in it, and the depth is counted along.
-/

namespace CodeMarkup.Json

/-! ### White space -/

theorem skipBlanks_append {w : Text} (hw : ∀ c ∈ w, isBlank c) (t : Text) :
    skipBlanks (w ++ t) = skipBlanks t :=
  List.dropWhile_append_of_pos hw

theorem skipBlanks_of_head {c : Char} (hc : isBlank c = false) (t : Text) :
    skipBlanks (c :: t) = c :: t := by
  rw [skipBlanks, List.dropWhile_cons, hc]
  rfl

theorem skipBlanks_eq_nil {w : Text} (hw : ∀ c ∈ w, isBlank c) : skipBlanks w = [] := by
  rw [← List.append_nil w, skipBlanks_append hw]
  rfl

/-- White space in front of a value does not matter. -/
theorem value?_append {w : Text} (hw : ∀ c ∈ w, isBlank c) (n : Nat) (t : Text) :
    value? n (w ++ t) = value? n t := by
  cases n with
  | zero => rfl
  | succ n => rw [value?, value?, skipBlanks_append hw]

/-! ### Single values -/

/-- That no number goes on with what a text begins with. -/
def EndsNumber (r : Text) : Prop := ∀ c ∈ r.head?, c.isDigit = false ∧ c ∉ ['.', 'e', 'E']

/-- That `w` is read as the value `v` in front of anything that ends a number, if the reader looks
deeper than `depth`. -/
def WrittenFor (depth : Nat) (w : Text) (v : Datum) : Prop :=
  ∀ n r, depth < n → EndsNumber r → value? n (w ++ r) = some (v, skipBlanks r)

theorem WrittenFor.mono {depth depth' : Nat} {w : Text} {v : Datum} (h : WrittenFor depth w v)
    (hle : depth ≤ depth') : WrittenFor depth' w v :=
  fun n r hn hr => h n r (Nat.lt_of_le_of_lt hle hn) hr

theorem writtenFor_nothing : WrittenFor 0 nothing .null := by
  intro n r hn _
  obtain ⟨n, rfl⟩ := Nat.exists_eq_succ_of_ne_zero (Nat.ne_zero_of_lt hn)
  rfl

theorem writtenFor_quote (t : Text) : WrittenFor 0 (quote t) (.string (String.ofList t)) := by
  intro n r hn _
  obtain ⟨n, rfl⟩ := Nat.exists_eq_succ_of_ne_zero (Nat.ne_zero_of_lt hn)
  have hquoted : value? (n + 1) ('"' :: (t.flatMap quoteChar ++ '"' :: r)) =
      ((quoted? (t.flatMap quoteChar ++ '"' :: r)).map fun p =>
        (p.1.elim Datum.other fun s => .string (String.ofList s), p.2)).map fun p =>
          (p.1, skipBlanks p.2) := rfl
  rw [quote, List.cons_append, List.cons_append, List.append_assoc, List.singleton_append,
    hquoted, quoted?_quote]
  rfl

/-- The digits of a number are all there is to it, if no number goes on behind them. -/
theorem unsigned?_toDigits (n : Nat) {r : Text} (hr : EndsNumber r) :
    unsigned? (Nat.toDigits 10 n ++ r) = some (.nat n, r) := by
  have hdigits : digits? (Nat.toDigits 10 n ++ r) = some (Nat.toDigits 10 n, r) := by
    have hfound := Scanner.chars_append (p := Char.isDigit) (t := Nat.toDigits 10 n) (r := r)
      (fun c hc => Nat.isDigit_of_mem_toDigits (by decide) (by decide) hc) fun c hc => (hr c hc).1
    obtain ⟨d, ds, hds, -⟩ := exists_cons_toDigits n
    rw [digits?, hfound, hds]
  -- A zero in front is the only digit.
  have hzero : ¬((Nat.toDigits 10 n).head? = some '0' ∧ (Nat.toDigits 10 n).length ≠ 1) := by
    rintro ⟨hhead, hlen⟩
    rcases Nat.eq_zero_or_pos n with rfl | hn
    · exact hlen rfl
    · exact head?_toDigits_ne hn hhead
  have hrest : (skipFraction? r).bind skipExponent? = some r := by
    cases r with
    | nil => rfl
    | cons c r =>
      obtain ⟨-, hc⟩ := hr c rfl
      simp only [List.mem_cons, List.not_mem_nil, or_false, not_or] at hc
      have hfraction : skipFraction? (c :: r) = some (c :: r) := by
        rw [skipFraction?.eq_def]
        split
        · next h =>
          cases h
          exact absurd rfl hc.1
        · rfl
      have hexponent : skipExponent? (c :: r) = some (c :: r) := by
        rw [skipExponent?.eq_def]
        exact if_neg (not_or.2 hc.2)
      rw [hfraction, Option.bind_some, hexponent]
  rw [unsigned?, hdigits]
  simp only [hzero, if_false, hrest, if_true,
    Nat.ofDigitChars_toDigits (b := 10) (by decide) (by decide)]

/-- Only a number begins with a digit. -/
theorem value?_of_isDigit {d : Char} (hd : d.isDigit) (n : Nat) (t : Text) :
    value? (n + 1) (d :: t) = (number? (d :: t)).map fun (v, r) => (v, skipBlanks r) := by
  have hblank : isBlank d = false := by
    by_contra hb
    simp only [isBlank, Bool.not_eq_false, Bool.or_eq_true, decide_eq_true_eq] at hb
    rcases hb with ((rfl | rfl) | rfl) | rfl <;> cases hd
  rw [value?, skipBlanks_of_head hblank]
  dsimp only
  split
  case h_7 => rfl
  all_goals
    next h =>
      cases h
      cases hd

theorem writtenFor_numeral (m : Nat) : WrittenFor 0 (numeral m) (.nat m) := by
  intro n r hn hr
  obtain ⟨n, rfl⟩ := Nat.exists_eq_succ_of_ne_zero (Nat.ne_zero_of_lt hn)
  obtain ⟨d, ds, hds, hd⟩ := exists_cons_toDigits m
  have hread := unsigned?_toDigits m hr
  rw [hds, List.cons_append] at hread
  have hnumber : number? (d :: (ds ++ r)) = some (.nat m, r) := by
    rw [number?.eq_def]
    split
    · next h =>
      cases h
      cases hd
    · exact hread
  rw [numeral, hds, List.cons_append, value?_of_isDigit hd, hnumber]
  rfl

/-! ### Tables -/

/-- A key and what is written for its value. -/
def entry (e : Text × Text) : Text := quote e.1 ++ [':', ' '] ++ e.2

theorem join_append_cons (sep p w : Text) (ws : List Text) :
    Text.join sep ((p ++ w) :: ws) = p ++ Text.join sep (w :: ws) := by
  cases ws with
  | nil => rfl
  | cons w' ws => simp [Text.join]

/-- The lines of a table are its entries with commas between them and white space before them. -/
theorem join_entryLine (indent : Text) (e : Text × Text) (es : List (Text × Text)) :
    Text.join [',', '\n'] ((e :: es).map (entryLine indent)) =
      indent ++ Text.join [','] (entry e :: es.map fun e => '\n' :: indent ++ entry e) := by
  induction es generalizing e with
  | nil => simp [Text.join, entryLine, entry]
  | cons e' es ih =>
    have hlines : Text.join [',', '\n'] ((e :: e' :: es).map (entryLine indent)) =
        entryLine indent e ++ [',', '\n'] ++
          Text.join [',', '\n'] ((e' :: es).map (entryLine indent)) := rfl
    have hentries : Text.join [','] (entry e :: (e' :: es).map fun e => '\n' :: indent ++ entry e) =
        entry e ++ [','] ++
          Text.join [','] (('\n' :: indent ++ entry e') ::
            es.map fun e => '\n' :: indent ++ entry e) := rfl
    rw [hlines, ih, hentries, join_append_cons]
    simp [entryLine, entry]

/-- **An entry is read as its key and its value**, whatever white space stands before it. -/
theorem keyed?_entry {depth n : Nat} {key w : Text} {v : Datum} (hw : WrittenFor depth w v)
    (hn : depth < n) {blanks : Text} (hblanks : ∀ c ∈ blanks, isBlank c) {r : Text}
    (hr : EndsNumber r) :
    keyed? (value? n) (blanks ++ entry (key, w) ++ r) = some ((some key, v), skipBlanks r) := by
  have hkey : string? ('"' :: (key.flatMap quoteChar ++ '"' :: ([':', ' '] ++ w ++ r))) =
      some (some key, [':', ' '] ++ w ++ r) := quoted?_quote _ _
  have hvalue : value? n (' ' :: (w ++ r)) = some (v, skipBlanks r) := by
    rw [← hw n r hn hr]
    exact value?_append (w := [' ']) (by simp [isBlank]) n (w ++ r)
  have htext : entry (key, w) ++ r =
      '"' :: (key.flatMap quoteChar ++ '"' :: ([':', ' '] ++ w ++ r)) := by
    simp [entry, quote]
  rw [keyed?, List.append_assoc, skipBlanks_append hblanks, htext, skipBlanks_of_head (by rfl),
    hkey]
  change (value? n (' ' :: (w ++ r))).map _ = _
  rw [hvalue]
  rfl

/-- What stands behind an opening brace is a row of entries up to the closing brace. -/
theorem value?_brace {n : Nat} {t u r : Text} {es : List (Option Text × Datum)}
    (hskip : skipBlanks t = u) (hu : u.head? ≠ some '\x7d')
    (hrow : Scanner.separated ',' (keyed? (value? n)) u = (es, '\x7d' :: r)) :
    value? (n + 1) ('\x7b' :: t) = some ((entries? es).elim .other .table, skipBlanks r) := by
  rw [value?, skipBlanks_of_head (by rfl)]
  dsimp only
  split
  case h_6 t' h =>
    cases h
    rw [hskip]
    split
    · exact absurd rfl hu
    · rw [hrow]
      rfl
  case h_7 h => exact absurd rfl (h t)
  all_goals
    next h => cases h

/-- **A table is read as the table of what its entries are read as.** -/
theorem writtenFor_object (depth : Nat) (fields : List (String × Text × Datum)) (indent : Text)
    (hne : fields ≠ []) (hfields : ∀ f ∈ fields, WrittenFor depth f.2.1 f.2.2)
    (hindent : ∀ c ∈ indent, isBlank c) :
    WrittenFor (depth + 1) (object indent (fields.map fun f => (f.1.toList, f.2.1)))
      (.table (fields.map fun f => (f.1, f.2.2))) := by
  intro n r hn hr
  obtain ⟨n, rfl⟩ := Nat.exists_eq_succ_of_ne_zero (Nat.ne_zero_of_lt hn)
  have hdepth : depth < n := Nat.lt_of_succ_lt_succ hn
  obtain ⟨f, fs, rfl⟩ := List.exists_cons_of_ne_nil hne
  obtain ⟨hf, hfs⟩ := List.forall_mem_cons.1 hfields
  let inner := indent ++ [' ', ' ']
  have hinner : ∀ c ∈ inner, isBlank c := by
    intro c hc
    rcases List.mem_append.1 hc with hc | hc
    · exact hindent c hc
    · obtain rfl : c = ' ' := by simpa using hc
      rfl
  have hline : ∀ c ∈ '\n' :: inner, isBlank c := List.forall_mem_cons.2 ⟨rfl, hinner⟩
  -- The entries, the first of them without the white space before it.
  let items := entry (f.1.toList, f.2.1) ::
    (fs.map fun f => (f.1.toList, f.2.1)).map fun e => '\n' :: inner ++ entry e
  have hitems : List.Forall₂
      (fun w a => ∀ r, EndsNumber r → keyed? (value? n) (w ++ r) = some (a, skipBlanks r))
      items (((f :: fs).map fun f => (some f.1.toList, f.2.2))) := by
    have hnone : ∀ c ∈ ([] : Text), isBlank c := by simp
    refine .cons (fun r hr => keyed?_entry hf hdepth hnone hr) ?_
    rw [List.map_map, List.forall₂_map_left_iff, List.forall₂_map_right_iff]
    exact List.forall₂_same.2 fun f hf r hr => keyed?_entry (hfs f hf) hdepth hline hr
  have hclose : skipBlanks ('\n' :: (indent ++ '\x7d' :: r)) = '\x7d' :: r := by
    rw [← List.cons_append, skipBlanks_append (List.forall_mem_cons.2 ⟨rfl, hindent⟩),
      skipBlanks_of_head (by rfl)]
  have hrow : Scanner.separated ',' (keyed? (value? n))
      (Text.join [','] items ++ '\n' :: (indent ++ '\x7d' :: r)) =
        ((f :: fs).map fun f => (some f.1.toList, f.2.2), '\x7d' :: r) := by
    have hsep : ∀ t, EndsNumber (',' :: t) ∧ skipBlanks (',' :: t) = ',' :: t :=
      fun t => ⟨by simp [EndsNumber], skipBlanks_of_head (by rfl) t⟩
    have hread := Scanner.separated_join hsep hitems (by simp [items])
      (r := '\n' :: (indent ++ '\x7d' :: r)) (by simp [EndsNumber])
      (by
        -- The brace is no comma, so no further entry is asked for.
        intro r' h
        rw [hclose] at h
        cases h)
    rwa [hclose] at hread
  have hentries : entries? ((f :: fs).map fun f => (some f.1.toList, f.2.2)) =
      some ((f :: fs).map fun f => (f.1, f.2.2)) := by
    rw [entries?, mapM_eq_some_iff, List.forall₂_map_left_iff, List.forall₂_map_right_iff]
    exact List.forall₂_same.2 fun f _ => by simp
  have htext : object indent ((f :: fs).map fun f => (f.1.toList, f.2.1)) ++ r =
      '\x7b' :: ('\n' :: inner ++ (Text.join [','] items ++ '\n' :: (indent ++ '\x7d' :: r))) := by
    rw [object, List.map_cons, join_entryLine]
    simp [items, inner]
  -- The first entry begins with the quote of its key.
  obtain ⟨u, hu⟩ : ∃ u, Text.join [','] items = '"' :: u :=
    ⟨_, join_append_cons [','] ['"'] _ _⟩
  rw [htext, value?_brace _ _ hrow, hentries]
  · rfl
  · rw [skipBlanks_append hline, hu]
    exact skipBlanks_of_head (by rfl) _
  · rw [hu]
    simp

end CodeMarkup.Json
