import CodeMarkup.Toml.Text

/-!
# Reading undoes writing, for strings and keys in TOML

What is written for a text is read as the text, in whichever form it is written
(`CodeMarkup.Toml.string?_writeString`), and so is a key
(`CodeMarkup.Toml.simpleKey?_writeKey`). What stands behind the string or the key is left
over, if it could not be taken for a part of it.

Each form has a lemma of its own. The forms over several lines are the ones to take
care with: quotes in the text meet those that end it. A reader that sees three quotes
may see the end or the last two characters before it, and only what stands behind
them can tell; a writer has to see to it that no three come together before.
-/

namespace CodeMarkup.Toml

/-! ### Basic strings -/

/-- A character that is neither quote, backslash nor control stands for itself. -/
theorem basic?_of_plain {c : Char} (hq : c ≠ '"') (hb : c ≠ '\\') (hc : isControl c = false)
    (t : Text) : basic? (c :: t) = push? (some c) (basic? t) := by
  rw [basic?.eq_def]
  split
  all_goals simp_all

theorem basic?_of_escape {c e : Char} (h : escape? c = some e) (t : Text) :
    basic? ('\\' :: c :: t) = push? (some e) (basic? t) := by
  have hu : c ≠ 'u' := by rintro rfl; cases h
  have hU : c ≠ 'U' := by rintro rfl; cases h
  rw [basic?.eq_def]
  split
  all_goals simp_all
  · next hne heq => exact absurd heq.2.symm (hne c t heq.1.symm)

theorem toNat_lt_of_isControl {c : Char} (h : isControl c) : c.toNat < 128 := by
  rcases Bool.or_eq_true .. ▸ h with h | h
  · have hc : c < ' ' := of_decide_eq_true (Bool.and_eq_true .. ▸ h).1
    exact Nat.lt_trans (show c.toNat < 32 from hc) (by decide)
  · rw [of_decide_eq_true h]
    decide

theorem readDigits?_control : ∀ n < 128,
    readDigits? 16 0 ['0', '0', (Nat.digitChar (n / 16)).toUpper,
      (Nat.digitChar (n % 16)).toUpper] = some n := by
  decide

theorem unicode?_control {c : Char} (h : isControl c) :
    unicode? ['0', '0', (Nat.digitChar (c.toNat / 16)).toUpper,
      (Nat.digitChar (c.toNat % 16)).toUpper] = some c := by
  rw [unicode?, readDigits?_control _ (toNat_lt_of_isControl h)]
  exact charOfNat?_toNat c

/-- What is written for a character is read as the character. -/
theorem basic?_escapeChar (c : Char) (t : Text) :
    basic? (escapeChar c ++ t) = push? (some c) (basic? t) := by
  unfold escapeChar
  split
  · exact basic?_of_escape rfl t
  · exact basic?_of_escape rfl t
  · exact basic?_of_escape rfl t
  · exact basic?_of_escape rfl t
  · exact basic?_of_escape rfl t
  · exact basic?_of_escape rfl t
  · exact basic?_of_escape rfl t
  · next hq hb _ _ _ _ _ =>
    split
    · next hc =>
      simp only [List.cons_append, List.nil_append]
      rw [basic?, unicode?_control hc]
    · next hc => exact basic?_of_plain hq hb (by simpa using hc) t

theorem basic?_flatMap (t r : Text) :
    basic? (t.flatMap escapeChar ++ '"' :: r) = some (t, r) := by
  induction t with
  | nil => rfl
  | cons c t ih => rw [List.flatMap_cons, List.append_assoc, basic?_escapeChar, ih]; rfl

/-! ### Literal strings -/

theorem literal?_append {t : Text} (ht : ∀ c ∈ t, c ≠ '\'' ∧ isControl c = false) (r : Text) :
    literal? (t ++ '\'' :: r) = some (t, r) := by
  induction t with
  | nil => rfl
  | cons c t ih =>
    obtain ⟨hq, hc⟩ := ht c List.mem_cons_self
    rw [List.cons_append, literal?.eq_def]
    split
    · simp_all
    · simp_all
    · next heq =>
      cases heq
      rw [hc, ih fun d hd => ht d (List.mem_cons_of_mem _ hd)]
      rfl

/-! ### Strings over several lines -/

theorem literalLines?_of_plain {c : Char} (hq : c ≠ '\'') (hc : isHiddenControl c = false) (t : Text) :
    literalLines? (c :: t) = push? (some c) (literalLines? t) := by
  have hr : c ≠ '\r' := by rintro rfl; cases hc
  rw [literalLines?.eq_def]
  split
  all_goals simp_all

/-- A quote before another character is a character of the string. -/
theorem literalLines?_quote {c : Char} (hq : c ≠ '\'') (t : Text) :
    literalLines? ('\'' :: c :: t) = push? (some '\'') (literalLines? (c :: t)) := by
  rw [literalLines?.eq_def]
  split
  all_goals simp_all
  · next heq => obtain ⟨rfl, rfl⟩ := heq; rfl

/-- Two quotes before another character are characters of the string. -/
theorem literalLines?_quotes {c : Char} (hq : c ≠ '\'') (t : Text) :
    literalLines? ('\'' :: '\'' :: c :: t) = push? (some '\'') (literalLines? ('\'' :: c :: t)) := by
  rw [literalLines?.eq_def]
  split
  all_goals simp_all
  · next heq => obtain ⟨rfl, rfl⟩ := heq; rfl

theorem hasTriple_cons_eq_false {q c : Char} {t : Text} (h : hasTriple q (c :: t) = false) :
    hasTriple q t = false := (Bool.or_eq_false_iff.1 h).2

/-- Three quotes end a string. -/
theorem literalLines?_close {r : Text} (hr : r.head? ≠ some '\'') :
    literalLines? ('\'' :: '\'' :: '\'' :: r) = some ([], r) := by
  rw [literalLines?]
  all_goals
    rintro t rfl
    exact hr rfl

/-- Of four quotes the first one is a character of the string. -/
theorem literalLines?_quote_close {r : Text} (hr : r.head? ≠ some '\'') :
    literalLines? ('\'' :: '\'' :: '\'' :: '\'' :: r) = some (['\''], r) := by
  rw [literalLines?]
  rintro t rfl
  exact hr rfl

/-- A text without three quotes in a row is read up to the three that end it. -/
theorem literalLines?_append {t r : Text} (hr : r.head? ≠ some '\'')
    (ht : hasTriple '\'' t = false) (hc : ∀ c ∈ t, isHiddenControl c = false) :
    literalLines? (t ++ '\'' :: '\'' :: '\'' :: r) = some (t, r) := by
  induction t with
  | nil => exact literalLines?_close hr
  | cons c t ih =>
    have ih := ih (hasTriple_cons_eq_false ht) fun d hd => hc d (List.mem_cons_of_mem _ hd)
    by_cases hq : c = '\''
    · subst hq
      cases t with
      | nil => exact literalLines?_quote_close hr
      | cons d t =>
        by_cases hd : d = '\''
        · subst hd
          cases t with
          | nil => rfl
          | cons e t =>
            have he : e ≠ '\'' := by
              rintro rfl
              simp [hasTriple] at ht
            rw [List.cons_append, List.cons_append, List.cons_append, literalLines?_quotes he]
            rw [List.cons_append, List.cons_append] at ih
            rw [ih]
            rfl
        · rw [List.cons_append, List.cons_append, literalLines?_quote hd]
          rw [List.cons_append] at ih
          rw [ih]
          rfl
    · rw [List.cons_append, literalLines?_of_plain hq (hc c List.mem_cons_self), ih]
      rfl
theorem basicLines?_of_plain {c : Char} (hq : c ≠ '"') (hb : c ≠ '\\')
    (hc : isHiddenControl c = false) (t : Text) :
    basicLines? .within (c :: t) = push? (some c) (basicLines? .within t) := by
  have hr : c ≠ '\r' := by rintro rfl; cases hc
  rw [basicLines?.eq_def]
  split
  all_goals simp_all

theorem basicLines?_of_escape {c e : Char} (h : escape? c = some e) (t : Text) :
    basicLines? .within ('\\' :: c :: t) = push? (some e) (basicLines? .within t) := by
  have hu : c ≠ 'u' := by rintro rfl; cases h
  have hU : c ≠ 'U' := by rintro rfl; cases h
  rw [basicLines?.eq_def]
  split
  all_goals simp_all
  next hne heq => exact absurd heq.2.symm (hne c t heq.1.symm)

/-- A quote before another character is a character of the string. -/
theorem basicLines?_quote {c : Char} (hq : c ≠ '"') (t : Text) :
    basicLines? .within ('"' :: c :: t) = push? (some '"') (basicLines? .within (c :: t)) := by
  rw [basicLines?.eq_def]
  split
  all_goals simp_all
  · next heq => obtain ⟨rfl, rfl⟩ := heq; rfl

/-- Two quotes before another character are characters of the string. -/
theorem basicLines?_quotes {c : Char} (hq : c ≠ '"') (t : Text) :
    basicLines? .within ('"' :: '"' :: c :: t) =
      push? (some '"') (basicLines? .within ('"' :: c :: t)) := by
  rw [basicLines?.eq_def]
  split
  all_goals simp_all
  · next heq => obtain ⟨rfl, rfl⟩ := heq; rfl

/-- Three quotes end a string. -/
theorem basicLines?_close {r : Text} (hr : r.head? ≠ some '"') :
    basicLines? .within ('"' :: '"' :: '"' :: r) = some ([], r) := by
  rw [basicLines?]
  · rintro t rfl
    exact hr rfl
  · rintro t rfl
    exact hr rfl
  · exact Place.noConfusion

/-- Of four quotes the first one is a character of the string. -/
theorem basicLines?_quote_close {r : Text} (hr : r.head? ≠ some '"') :
    basicLines? .within ('"' :: '"' :: '"' :: '"' :: r) = some (['"'], r) := by
  rw [basicLines?]
  · rintro t rfl
    exact hr rfl
  · exact Place.noConfusion

/-- What is written between three double quotes for a character that is none itself. -/
def lineChar (c : Char) : Text := if c = '\n' then ['\n'] else escapeChar c

theorem escapeLines_cons_of_ne {c : Char} (hq : c ≠ '"') (k : Nat) (t : Text) :
    escapeLines k (c :: t) = lineChar c ++ escapeLines 0 t := by
  rw [escapeLines, if_neg hq, lineChar]
  split <;> rfl

/-- What is written for a character on a line is read as the character. -/
theorem basicLines?_lineChar {c : Char} (hq : c ≠ '"') (t : Text) :
    basicLines? .within (lineChar c ++ t) = push? (some c) (basicLines? .within t) := by
  rw [lineChar]
  split
  · next hn =>
    subst hn
    exact basicLines?_of_plain (by decide) (by decide) rfl t
  · next hn =>
    unfold escapeChar
    split
    · exact absurd rfl hq
    · exact basicLines?_of_escape rfl t
    · exact basicLines?_of_escape rfl t
    · exact basicLines?_of_escape rfl t
    · exact absurd rfl hn
    · exact basicLines?_of_escape rfl t
    · exact basicLines?_of_escape rfl t
    · next hb _ _ _ _ _ =>
      split
      · next hc =>
        simp only [List.cons_append, List.nil_append]
        rw [basicLines?, unicode?_control hc]
        all_goals exact Place.noConfusion
      · next hc =>
        refine basicLines?_of_plain hq hb ?_ t
        rw [isHiddenControl, Bool.eq_false_iff.2 hc]
        rfl

theorem head?_lineChar {c : Char} (hq : c ≠ '"') :
    ∃ d ds, lineChar c = d :: ds ∧ d ≠ '"' := by
  unfold lineChar escapeChar
  split
  · exact ⟨'\n', [], rfl, by decide⟩
  · split
    · exact absurd rfl hq
    · exact ⟨'\\', _, rfl, by decide⟩
    · exact ⟨'\\', _, rfl, by decide⟩
    · exact ⟨'\\', _, rfl, by decide⟩
    · exact ⟨'\\', _, rfl, by decide⟩
    · exact ⟨'\\', _, rfl, by decide⟩
    · exact ⟨'\\', _, rfl, by decide⟩
    · split
      · exact ⟨'\\', _, rfl, by decide⟩
      · exact ⟨c, [], rfl, hq⟩

/-- What is written for a text is read as the text, also behind one quote or two that the
writer has counted. -/
theorem basicLines?_escapeLines {t r : Text} (hr : r.head? ≠ some '"') :
    basicLines? .within (escapeLines 0 t ++ '"' :: '"' :: '"' :: r) = some (t, r) ∧
      basicLines? .within ('"' :: (escapeLines 1 t ++ '"' :: '"' :: '"' :: r)) =
        some ('"' :: t, r) ∧
      basicLines? .within ('"' :: '"' :: (escapeLines 2 t ++ '"' :: '"' :: '"' :: r)) =
        some ('"' :: '"' :: t, r) := by
  induction t with
  | nil => exact ⟨basicLines?_close hr, basicLines?_quote_close hr, by rw [escapeLines]; rfl⟩
  | cons c t ih =>
    obtain ⟨ih₀, ih₁, ih₂⟩ := ih
    by_cases hq : c = '"'
    · subst hq
      refine ⟨ih₁, ih₂, ?_⟩
      rw [escapeLines, if_pos rfl, if_pos rfl, List.cons_append, List.cons_append,
        basicLines?_quotes (by decide), basicLines?_quote (by decide), basicLines?_of_escape rfl, ih₀]
      rfl
    · obtain ⟨d, ds, hd, hne⟩ := head?_lineChar hq
      have h₀ : basicLines? .within
          (d :: (ds ++ (escapeLines 0 t ++ '"' :: '"' :: '"' :: r))) = some (c :: t, r) := by
        rw [← List.cons_append, ← hd, basicLines?_lineChar hq, ih₀]
        rfl
      rw [escapeLines_cons_of_ne hq, escapeLines_cons_of_ne hq, escapeLines_cons_of_ne hq, hd,
        List.append_assoc, List.cons_append]
      refine ⟨h₀, ?_, ?_⟩
      · rw [basicLines?_quote hne, h₀]
        rfl
      · rw [basicLines?_quotes hne, basicLines?_quote hne, h₀]
        rfl

/-! ### All forms -/

theorem string?_basic {u : Text} (hu : ∀ v, u ≠ '"' :: '"' :: v) : string? ('"' :: u) = basic? u := by
  rw [string?]
  exact fun v h => hu v h

theorem string?_literal {u : Text} (hu : ∀ v, u ≠ '\'' :: '\'' :: v) :
    string? ('\'' :: u) = literal? u := by
  rw [string?]
  exact fun v h => hu v h

theorem head?_escapeChar (c : Char) :
    ∃ d ds, escapeChar c = d :: ds ∧ d ≠ '"' ∧ (d = '\\' ∨ d = c ∧ isControl c = false) := by
  unfold escapeChar
  split
  · exact ⟨'\\', _, rfl, by decide, .inl rfl⟩
  · exact ⟨'\\', _, rfl, by decide, .inl rfl⟩
  · exact ⟨'\\', _, rfl, by decide, .inl rfl⟩
  · exact ⟨'\\', _, rfl, by decide, .inl rfl⟩
  · exact ⟨'\\', _, rfl, by decide, .inl rfl⟩
  · exact ⟨'\\', _, rfl, by decide, .inl rfl⟩
  · exact ⟨'\\', _, rfl, by decide, .inl rfl⟩
  · next hq _ _ _ _ _ _ =>
    split
    · exact ⟨'\\', _, rfl, by decide, .inl rfl⟩
    · next hc => exact ⟨c, [], rfl, hq, .inr ⟨rfl, by simpa using hc⟩⟩

theorem string?_writeIn_basic (t : Text) {r : Text} (hr : r.head? ≠ some '"') :
    string? (writeIn .basic t ++ r) = some (t, r) := by
  have hw : writeIn .basic t ++ r = '"' :: (t.flatMap escapeChar ++ '"' :: r) := by
    simp [writeIn]
  rw [hw, string?_basic, basic?_flatMap]
  intro v hv
  cases t with
  | nil =>
    injection hv with _ hv
    exact hr (by rw [hv]; rfl)
  | cons c t =>
    obtain ⟨d, ds, hd, hne, -⟩ := head?_escapeChar c
    rw [List.flatMap_cons, hd] at hv
    injection hv with hv _
    exact hne hv

theorem string?_writeIn_literal {t r : Text} (ht : ∀ c ∈ t, c ≠ '\'' ∧ isControl c = false)
    (hr : r.head? ≠ some '\'') : string? (writeIn .literal t ++ r) = some (t, r) := by
  have hw : writeIn .literal t ++ r = '\'' :: (t ++ '\'' :: r) := by simp [writeIn]
  rw [hw, string?_literal, literal?_append ht]
  intro v hv
  cases t with
  | nil =>
    injection hv with _ hv
    exact hr (by rw [hv]; rfl)
  | cons c t =>
    injection hv with hv _
    exact (ht c List.mem_cons_self).1 hv

theorem skipLineEnd_of_head {c : Char} (hn : c ≠ '\n') (hr : c ≠ '\r') (t : Text) :
    skipLineEnd (c :: t) = c :: t := by
  rw [skipLineEnd.eq_def]
  split
  all_goals simp_all

/-- The line feed that leads in a text with lines is the one that does not count. -/
theorem skipLineEnd_leadIn {t u : Text} (hu : '\n' ∉ t → ∃ c v, u = c :: v ∧ c ≠ '\n' ∧ c ≠ '\r') :
    skipLineEnd (leadIn t ++ u) = u := by
  unfold leadIn
  split
  · rfl
  · next h =>
    obtain ⟨c, v, rfl, hn, hr⟩ := hu (by simpa using h)
    exact skipLineEnd_of_head hn hr v

theorem string?_writeIn_basicLines (t : Text) {r : Text} (hr : r.head? ≠ some '"') :
    string? (writeIn .basicLines t ++ r) = some (t, r) := by
  have hw : writeIn .basicLines t ++ r =
      '"' :: '"' :: '"' :: (leadIn t ++ (escapeLines 0 t ++ '"' :: '"' :: '"' :: r)) := by
    simp [writeIn]
  rw [hw, string?, skipLineEnd_leadIn, (basicLines?_escapeLines hr).1]
  intro hn
  cases t with
  | nil => exact ⟨'"', _, rfl, by decide, by decide⟩
  | cons c t =>
    have hcn : c ≠ '\n' := fun h => hn (h ▸ List.mem_cons_self)
    by_cases hq : c = '"'
    · subst hq
      exact ⟨'"', _, rfl, by decide, by decide⟩
    · obtain ⟨d, ds, hd, -, hcase⟩ := head?_escapeChar c
      refine ⟨d, ds ++ (escapeLines 0 t ++ '"' :: '"' :: '"' :: r), ?_, ?_⟩
      · rw [escapeLines_cons_of_ne hq, lineChar, if_neg hcn, hd, List.append_assoc, List.cons_append]
      · rcases hcase with rfl | ⟨rfl, hc⟩
        · exact ⟨by decide, by decide⟩
        · exact ⟨hcn, by rintro rfl; cases hc⟩

theorem string?_writeIn_literalLines {t r : Text} (ht : hasTriple '\'' t = false)
    (hc : ∀ c ∈ t, isHiddenControl c = false) (hr : r.head? ≠ some '\'') :
    string? (writeIn .literalLines t ++ r) = some (t, r) := by
  have hw : writeIn .literalLines t ++ r =
      '\'' :: '\'' :: '\'' :: (leadIn t ++ (t ++ '\'' :: '\'' :: '\'' :: r)) := by
    simp [writeIn]
  rw [hw, string?, skipLineEnd_leadIn, literalLines?_append hr ht hc]
  intro hn
  cases t with
  | nil => exact ⟨'\'', _, rfl, by decide, by decide⟩
  | cons c t =>
    refine ⟨c, _, rfl, fun h => hn (h ▸ List.mem_cons_self), ?_⟩
    rintro rfl
    cases hc _ List.mem_cons_self

/-- **Reading undoes writing**: what is written for a text is read as the text, whatever
stands behind it, if that is no quote. -/
theorem string?_writeString (t : Text) {r : Text} (hd : r.head? ≠ some '"')
    (hs : r.head? ≠ some '\'') : string? (writeString t ++ r) = some (t, r) := by
  unfold writeString form
  simp only
  split
  · exact string?_writeIn_basic t hd
  · split
    · next h =>
      simp only [Bool.and_eq_true, Bool.not_eq_true', List.any_eq_false, List.contains_eq_mem,
        decide_eq_false_iff_not] at h
      refine string?_writeIn_literal (fun c hc => ⟨fun hq => h.1.2 (hq ▸ hc), ?_⟩) hs
      have hh := h.1.1 c hc
      have hn : c ≠ '\n' := fun hn => h.2 (hn ▸ hc)
      simpa [isHiddenControl, hn] using hh
    · split
      · exact string?_writeIn_basicLines t hd
      · split
        · next h =>
          simp only [Bool.and_eq_true, Bool.not_eq_true', List.any_eq_false] at h
          exact string?_writeIn_literalLines h.2 (fun c hc => by simpa using h.1 c hc) hs
        · split
          · exact string?_writeIn_basicLines t hd
          · exact string?_writeIn_basic t hd

/-! ### Keys -/

theorem simpleKey?_bare {t r : Text} (hne : t ≠ []) (ht : ∀ c ∈ t, isBareKeyChar c)
    (hr : ∀ c ∈ r.head?, isBareKeyChar c = false) : simpleKey? (t ++ r) = some (t, r) := by
  have hchars := Scanner.chars_append ht hr
  cases t with
  | nil => exact absurd rfl hne
  | cons c t =>
    have hc := ht c List.mem_cons_self
    rw [simpleKey?.eq_def]
    split
    · next heq =>
      injection heq with hq _
      subst hq
      cases hc
    · next heq =>
      injection heq with hq _
      subst hq
      cases hc
    · rw [hchars]

/-- **Reading undoes writing**, for keys: what is written for a text is read as the text,
whatever stands behind it, if that could not be part of a bare key. -/
theorem simpleKey?_writeKey (t : Text) {r : Text} (hr : ∀ c ∈ r.head?, isBareKeyChar c = false) :
    simpleKey? (writeKey t ++ r) = some (t, r) := by
  have hbasic : simpleKey? (writeIn .basic t ++ r) = some (t, r) := by
    simpa [writeIn, simpleKey?] using basic?_flatMap t r
  unfold writeKey
  simp only
  split
  · next h =>
    simp only [Bool.and_eq_true, Bool.not_eq_true', List.isEmpty_eq_false_iff, List.all_eq_true] at h
    exact simpleKey?_bare h.1 h.2 hr
  · split
    · exact hbasic
    · split
      · next h =>
        simp only [Bool.and_eq_true, Bool.not_eq_true', List.any_eq_false, List.contains_eq_mem,
          decide_eq_false_iff_not] at h
        have ht : ∀ c ∈ t, c ≠ '\'' ∧ isControl c = false :=
          fun c hc => ⟨fun hq => h.2 (hq ▸ hc), by simpa using h.1 c hc⟩
        simpa [writeIn, simpleKey?] using literal?_append ht r
      · exact hbasic

end CodeMarkup.Toml
