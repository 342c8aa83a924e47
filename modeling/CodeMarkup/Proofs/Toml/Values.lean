import CodeMarkup.Proofs.Rows
import CodeMarkup.Proofs.Toml.Numbers
import CodeMarkup.Toml.Document
import CodeMarkup.Toml.Text.RoundTrip

/-!
# Reading undoes writing, for the two sides of an equals sign

What is written for a key or for a value is read as the key
(`CodeMarkup.Toml.key?_writeKey`) or the value (`CodeMarkup.Toml.value?_writeValue?`), and
what stands behind it is left over.

A value is told by its first character; that is enough for all that is written. The strings of
an array may stand on lines of their own, with a comma behind each of them, or all on one
line, and are read by one lemma (`CodeMarkup.Toml.items?_join`).
-/

namespace CodeMarkup.Toml

/-! ### Keys -/

theorem skipBlanks_of_head {c : Char} (hc : isBlank c = false) (t : Text) :
    skipBlanks (c :: t) = c :: t := by
  rw [skipBlanks, List.dropWhile_cons, hc]
  rfl

/-- A character that a part of a key may begin with. -/
def IsKeyStart (c : Char) : Prop := isBareKeyChar c ∨ c = '"' ∨ c = '\''

/-- A part of a key begins with a character of bare keys or with a quote. -/
theorem head_writeKey (t : Text) : ∃ c u, Toml.writeKey t = c :: u ∧ IsKeyStart c := by
  unfold Toml.writeKey
  dsimp only
  split
  · next h =>
    simp only [Bool.and_eq_true, Bool.not_eq_true', List.isEmpty_eq_false_iff,
      List.all_eq_true] at h
    cases t with
    | nil => exact absurd rfl h.1
    | cons c u => exact ⟨c, u, rfl, .inl (h.2 c List.mem_cons_self)⟩
  · split
    · exact ⟨'"', _, rfl, .inr (.inl rfl)⟩
    · split
      · exact ⟨'\'', _, rfl, .inr (.inr rfl)⟩
      · exact ⟨'"', _, rfl, .inr (.inl rfl)⟩

/-- A part of a key begins with no other character. -/
theorem IsKeyStart.ne {c d : Char} (hc : IsKeyStart c) (hbare : isBareKeyChar d = false)
    (hd : d ≠ '"') (hs : d ≠ '\'') : c ≠ d := by
  rintro rfl
  rcases hc with h | h | h
  · rw [hbare] at h
    cases h
  · exact hd h
  · exact hs h

theorem IsKeyStart.isBlank_eq_false {c : Char} (hc : IsKeyStart c) : isBlank c = false := by
  have hspace : c ≠ ' ' := hc.ne rfl (by decide) (by decide)
  have htab : c ≠ '\t' := hc.ne rfl (by decide) (by decide)
  simp [isBlank, hspace, htab]

/-- What is written for a part of a key is read as the part, and white space behind it is
skipped. -/
theorem keyPart?_writeKey (part : String) {r : Text} (hr : ∀ c ∈ r.head?, isBareKeyChar c = false) :
    keyPart? (Toml.writeKey part.toList ++ r) = some (part, skipBlanks r) := by
  obtain ⟨c, u, hu, hc⟩ := head_writeKey part.toList
  have hblank : skipBlanks (Toml.writeKey part.toList ++ r) = Toml.writeKey part.toList ++ r := by
    rw [hu, List.cons_append, skipBlanks_of_head hc.isBlank_eq_false]
  rw [keyPart?, hblank, simpleKey?_writeKey _ hr]
  simp

/-- **Reading undoes writing**, for keys with points: they are read up to something that can
neither be a part of a bare key nor go on with one more part. -/
theorem key?_writeKey {key : List String} (hne : key ≠ []) (hlimit : key.length < depthLimit)
    {r : Text} (hr : ∀ c ∈ r.head?, isBareKeyChar c = false)
    (hend : (skipBlanks r).head? ≠ some '.') :
    key? (Document.writeKey key ++ r) = some (key, skipBlanks r) := by
  have hparts : List.Forall₂
      (fun w a => ∀ r : Text, (∀ c ∈ r.head?, isBareKeyChar c = false) →
        keyPart? (w ++ r) = some (a, skipBlanks r))
      (key.map fun part => Toml.writeKey part.toList) key := by
    rw [List.forall₂_map_left_iff]
    exact List.forall₂_same.2 fun part _ r hr => keyPart?_writeKey part hr
  have hread : Scanner.separated '.' keyPart? (Document.writeKey key ++ r) =
      (key, skipBlanks r) := by
    refine Scanner.separated_join (fun t => ⟨?_, skipBlanks_of_head rfl t⟩) hparts
      (by simpa using hne)
      hr fun r' hr' => ?_
    · rintro c ⟨⟩
      rfl
    · rw [hr'] at hend
      exact absurd rfl hend
  rw [key?, hread]
  cases key with
  | nil => exact absurd rfl hne
  | cons part parts => exact if_pos hlimit

/-! ### Values -/

/-- What begins neither an array nor a table in braces is a single value. -/
theorem nested?_of_head {c : Char} (hl : c ≠ '[') (hb : c ≠ '\x7b') (depth : Nat) (t : Text) :
    nested? depth (c :: t) = scalar? (c :: t) := by
  cases depth with
  | zero => rfl
  | succ depth =>
    rw [nested?.eq_def]
    split
    · next h =>
      injection h with h _
      exact absurd h hl
    · next h =>
      injection h with h _
      exact absurd h hb
    · rfl

theorem scalar?_of_head {c : Char} (ht : c ≠ 't') (hf : c ≠ 'f') (t : Text) :
    scalar? (c :: t) =
      match string? (c :: t) with
      | some (s, r) => some (.string (String.ofList s), r)
      | none =>
        match dateTime? (c :: t) with
        | some (d, r) => some (ofDateTime d, r)
        | none => number? (c :: t) := by
  rw [scalar?.eq_def]
  split
  · next h =>
    injection h with h _
    exact absurd h ht
  · next h =>
    injection h with h _
    exact absurd h hf
  · rfl

theorem string?_of_head {c : Char} (hd : c ≠ '"') (hs : c ≠ '\'') (t : Text) :
    string? (c :: t) = none := by
  rw [string?.eq_def]
  split
  · next h =>
    injection h with h _
    exact absurd h hd
  · next h =>
    injection h with h _
    exact absurd h hd
  · next h =>
    injection h with h _
    exact absurd h hs
  · next h =>
    injection h with h _
    exact absurd h hs
  · rfl

/-- A number up to the end of its line. -/
theorem value?_toDigits {n : Nat} (hn : n < 0x8000000000000000) (r : Text) :
    value? (Nat.toDigits 10 n ++ '\n' :: r) = some (.nat n, '\n' :: r) := by
  have hnumber := number?_toDigits hn r
  have hdate : dateTime? (Nat.toDigits 10 n ++ '\n' :: r) = none := by
    refine dateTime?_eq_none (r := r) ?_
    rw [List.dropWhile_append_of_pos fun c hc =>
      Nat.isDigit_of_mem_toDigits (by decide) (by decide) hc]
    rfl
  obtain ⟨d, ds, hds, hd⟩ := exists_cons_toDigits n
  have hne : ∀ c : Char, c.isDigit = false → d ≠ c := by
    rintro c hc rfl
    rw [hd] at hc
    cases hc
  rw [hds, List.cons_append] at hnumber hdate ⊢
  rw [value?, nested?_of_head (hne _ rfl) (hne _ rfl), scalar?_of_head (hne _ rfl) (hne _ rfl),
    string?_of_head (hne _ rfl) (hne _ rfl), hdate]
  exact hnumber

/-- A string begins with a quote. -/
theorem head_writeString (t : Text) : ∃ q u, writeString t = q :: u ∧ (q = '"' ∨ q = '\'') := by
  unfold writeString
  cases form t with
  | basic => exact ⟨'"', _, rfl, .inl rfl⟩
  | literal => exact ⟨'\'', _, rfl, .inr rfl⟩
  | basicLines => exact ⟨'"', _, rfl, .inl rfl⟩
  | literalLines => exact ⟨'\'', _, rfl, .inr rfl⟩

/-- A string, at whatever depth. -/
theorem nested?_writeString (depth : Nat) (t : Text) {r : Text} (hd : r.head? ≠ some '"')
    (hs : r.head? ≠ some '\'') :
    nested? depth (writeString t ++ r) = some (.string (String.ofList t), r) := by
  have hread := string?_writeString t hd hs
  obtain ⟨q, u, hu, hq⟩ := head_writeString t
  have hne : ∀ c : Char, c ≠ '"' → c ≠ '\'' → q ≠ c := by
    rintro c hd hs rfl
    rcases hq with h | h
    · exact hd h
    · exact hs h
  rw [hu, List.cons_append] at hread ⊢
  rw [nested?_of_head (hne _ (by decide) (by decide)) (hne _ (by decide) (by decide)),
    scalar?_of_head (hne _ (by decide) (by decide)) (hne _ (by decide) (by decide)), hread]

/-- The bracket that closes an array is no value. -/
theorem nested?_bracket (depth : Nat) (t : Text) : nested? depth (']' :: t) = none := by
  have hdate : dateTime? (']' :: t) = none := by
    have hdate : date? (']' :: t) = none := by
      rw [date?.eq_def]
      split
      · next h =>
        injection h with h _
        subst h
        rfl
      · rfl
    have htime : time? (']' :: t) = none := by
      unfold time?
      split
      · next htwo =>
        unfold twoDigits? at htwo
        split at htwo
        · next h =>
          injection h with h _
          subst h
          simp at htwo
        · cases htwo
      · rfl
    rw [dateTime?, hdate]
    exact htime
  have hnumber : number? (']' :: t) = none := rfl
  rw [nested?_of_head (by decide) (by decide), scalar?_of_head (by decide) (by decide),
    string?_of_head (by decide) (by decide), hdate]
  exact hnumber

/-! ### Arrays of strings -/

theorem skipLines_of_head {c : Char} (hblank : isBlank c = false) (hn : c ≠ '\n') (hr : c ≠ '\r')
    (hc : c ≠ '#') (t : Text) : skipLines false (c :: t) = c :: t := by
  rw [skipLines.eq_def]
  split
  · next h => cases h
  · next h =>
    injection h with h _
    exact absurd h hr
  · next h =>
    injection h with h ht
    subst h ht
    simp [hn, hblank, hc]

/-- An item of an array, with white space, line ends and comments around it. -/
def item? (value? : Scanner Datum) : Scanner Datum := fun t =>
  (value? (skipLines false t)).map fun (v, r) => (v, skipLines false r)

/-- What stands behind the last item of an array, and behind the comma that may follow it. -/
def behindComma : List Datum → Text → Text
  | _ :: _, ',' :: r => r
  | _, r => r

theorem items?_eq (value? : Scanner Datum) (t : Text) :
    items? value? t =
      match skipLines false (behindComma (Scanner.separated ',' (item? value?) t).1
        (Scanner.separated ',' (item? value?) t).2) with
      | ']' :: r => some ((Scanner.separated ',' (item? value?) t).1, r)
      | _ => none :=
  rfl

/-- What an array is, if its items have been read and a bracket closes it. -/
theorem items?_of_separated {value? : Scanner Datum} {t r r' : Text} {vs : List Datum}
    (hread : Scanner.separated ',' (item? value?) t = (vs, r))
    (hclose : skipLines false (behindComma vs r) = ']' :: r') :
    items? value? t = some (vs, r') := by
  rw [items?_eq, hread, hclose]
  rfl

/-- That a text behind a string cannot be taken for a part of it. -/
def BehindString (r : Text) : Prop := r.head? ≠ some '"' ∧ r.head? ≠ some '\''

/-- A string of an array, with white space in front that does not count. -/
theorem item?_writeString (depth : Nat) (t front : Text)
    (hfront : ∀ q u, q = '"' ∨ q = '\'' → skipLines false (front ++ q :: u) = q :: u) {r : Text}
    (hr : BehindString r) :
    item? (nested? depth) (front ++ writeString t ++ r) =
      some (.string (String.ofList t), skipLines false r) := by
  have hskip : skipLines false (front ++ writeString t ++ r) = writeString t ++ r := by
    obtain ⟨q, u, hu, hq⟩ := head_writeString t
    rw [hu, List.append_assoc, List.cons_append]
    exact hfront q _ hq
  rw [item?, hskip, nested?_writeString depth t hr.1 hr.2]
  rfl

theorem skipLines_bracket (t : Text) : skipLines false (']' :: t) = ']' :: t :=
  skipLines_of_head rfl (by decide) (by decide) (by decide) t

theorem skipLines_comma (t : Text) : skipLines false (',' :: t) = ',' :: t :=
  skipLines_of_head rfl (by decide) (by decide) (by decide) t

theorem skipLines_quote {q : Char} (hq : q = '"' ∨ q = '\'') (t : Text) :
    skipLines false (q :: t) = q :: t := by
  rcases hq with rfl | rfl
  · exact skipLines_of_head rfl (by decide) (by decide) (by decide) t
  · exact skipLines_of_head rfl (by decide) (by decide) (by decide) t

/-- Where an array is closed there is no item. -/
theorem item?_close (depth : Nat) {t r : Text} (h : skipLines false t = ']' :: r) :
    item? (nested? depth) t = none := by
  rw [item?, h, nested?_bracket]
  rfl

/-- **Strings between brackets**, with a comma between any two and perhaps one behind the last,
are read as a list. -/
theorem items?_join (depth : Nat) (front : Text) (ts : List Text)
    (hfront : ∀ q u, q = '"' ∨ q = '\'' → skipLines false (front ++ q :: u) = q :: u)
    (hne : ts ≠ []) {close : Text} (hclose : close = [] ∨ close = [',', '\n'])
    (r : Text) :
    items? (nested? depth)
        (Text.join [','] (ts.map fun t => front ++ writeString t) ++ (close ++ ']' :: r)) =
      some (ts.map fun t => .string (String.ofList t), r) := by
  have hitems : List.Forall₂
      (fun w v => ∀ r, BehindString r →
        item? (nested? depth) (w ++ r) = some (v, skipLines false r))
      (ts.map fun t => front ++ writeString t)
      (ts.map fun t => (.string (String.ofList t) : Datum)) := by
    rw [List.forall₂_map_left_iff, List.forall₂_map_right_iff]
    exact List.forall₂_same.2 fun t _ r hr => item?_writeString depth t front hfront hr
  have hread : Scanner.separated ',' (item? (nested? depth))
      (Text.join [','] (ts.map fun t => front ++ writeString t) ++ (close ++ ']' :: r)) =
        (ts.map fun t => .string (String.ofList t), skipLines false (close ++ ']' :: r)) := by
    refine @Scanner.separated_join _ ',' (item? (nested? depth)) BehindString (skipLines false)
      (fun t => ⟨⟨by simp, by simp⟩, skipLines_comma t⟩) _ _ hitems (by simpa using hne) _ ?_ ?_
    · rcases hclose with rfl | rfl <;> exact ⟨by simp, by simp⟩
    · -- No string comes behind the last comma.
      rcases hclose with rfl | rfl <;> intro r' hr'
      · rw [List.nil_append, skipLines_bracket] at hr'
        cases hr'
      · rw [List.cons_append, skipLines_comma] at hr'
        cases hr'
        exact item?_close depth (skipLines_bracket r)
  refine items?_of_separated hread ?_
  cases ts with
  | nil => exact absurd rfl hne
  | cons t ts =>
    rcases hclose with rfl | rfl
    · rw [List.nil_append, skipLines_bracket]
      exact skipLines_bracket r
    · rw [List.cons_append, skipLines_comma]
      exact skipLines_bracket r

/-- The lines of an array are its items with commas behind them. -/
theorem flatMap_lines_eq_join (w : Text → Text) (t : Text) (ts : List Text) :
    '\n' :: (t :: ts).flatMap (fun t => "    ".toList ++ w t ++ [',', '\n']) =
      Text.join [','] ((t :: ts).map fun t => '\n' :: "    ".toList ++ w t) ++ [',', '\n'] := by
  induction ts generalizing t with
  | nil => simp [Text.join]
  | cons t' ts ih =>
    have ih := ih t'
    have hjoin : Text.join [','] ((t :: t' :: ts).map fun t => '\n' :: "    ".toList ++ w t) =
        ('\n' :: "    ".toList ++ w t) ++ [','] ++
          Text.join [','] ((t' :: ts).map fun t => '\n' :: "    ".toList ++ w t) := rfl
    rw [hjoin, List.append_assoc _ (Text.join _ _), ← ih, List.flatMap_cons]
    simp

/-- **Reading undoes writing**, for arrays of strings. -/
theorem value?_writeStrings (ts : List Text) (r : Text) :
    value? (Document.writeStrings ts ++ r) =
      some (.list (ts.map fun t => .string (String.ofList t)), r) := by
  have harray : ∀ t vs, items? (nested? 78) t = some (vs, r) →
      value? ('[' :: t) = some (.list vs, r) := by
    intro t vs h
    change (items? (nested? 78) t).map _ = _
    rw [h]
    rfl
  cases ts with
  | nil =>
    refine harray _ _ ?_
    have hread : Scanner.separated ',' (item? (nested? 78)) (']' :: r) = ([], ']' :: r) := by
      rw [Scanner.separated, Scanner.separatedUpTo, item?_close 78 (skipLines_bracket r)]
    exact items?_of_separated hread (skipLines_bracket r)
  | cons t ts =>
    cases ts with
    | nil =>
      have hitems := items?_join 78 [] [t] (fun _ u hq => skipLines_quote hq u) (by simp)
        (.inl rfl) r
      refine harray _ _ ?_
      simpa [Text.join] using hitems
    | cons t' ts =>
      have hitems := items?_join 78 ('\n' :: "    ".toList) (t :: t' :: ts)
        (fun _ u hq => skipLines_quote hq u) (by simp) (.inr rfl) r
      have htext : Document.writeStrings (t :: t' :: ts) ++ r =
          '[' :: (Text.join [',']
            ((t :: t' :: ts).map fun t => '\n' :: "    ".toList ++ writeString t) ++
              ([',', '\n'] ++ ']' :: r)) := by
        rw [← List.append_assoc, ← flatMap_lines_eq_join]
        simp [Document.writeStrings]
      rw [htext]
      exact harray _ _ hitems

/-! ### All values -/

theorem mapM_string?_eq_some {vs : List Datum} {ss : List String}
    (h : vs.mapM Datum.string? = some ss) : vs = ss.map Datum.string := by
  rw [mapM_eq_some_iff] at h
  induction h with
  | nil => rfl
  | @cons v s vs ss hv _ ih =>
    cases v with
    | string s' =>
      obtain rfl : s' = s := by simpa [Datum.string?] using hv
      rw [ih, List.map_cons]
    | _ => cases hv

/-- **Reading undoes writing**, for every value that is written: it is read up to the end of its
line. -/
theorem value?_writeValue? {v : Datum} {w : Text} (h : Document.writeValue? v = some w) (r : Text) :
    value? (w ++ '\n' :: r) = some (v, '\n' :: r) := by
  cases v with
  | bool b =>
    cases b <;> cases h <;> rfl
  | nat n =>
    rw [Document.writeValue?] at h
    split at h
    · next hn =>
      cases h
      exact value?_toDigits hn r
    · cases h
  | string s =>
    cases h
    have hread := nested?_writeString (depthLimit - 1) s.toList (r := '\n' :: r) (by simp) (by simp)
    rwa [String.ofList_toList] at hread
  | list vs =>
    obtain ⟨ss, hss, rfl⟩ := Option.map_eq_some_iff.1 h
    rw [value?_writeStrings, mapM_string?_eq_some hss, List.map_map]
    congr 4
    exact funext fun s => by simp
  | null => cases h
  | table entries => cases h
  | other => cases h

end CodeMarkup.Toml
