import CodeMarkup.Numeral

/-!
# Strings in JSON

How a text is written between double quotes (`CodeMarkup.Json.quote`), and what
stands between double quotes (`CodeMarkup.Json.quoted?`).

An escape names a unit of 16 bits, and a character beyond those is named by two of
them, its *halves*. So what is written between quotes is a list of numbers, of which
the halves have to be put together (`CodeMarkup.Json.join?`). A half that stands alone
is well written, but then the string stands for no text.
-/

namespace CodeMarkup.Json

/-! ### Writing -/

/-- What is written for a character between quotes: quotes, backslashes and the controls
below the space are escaped. -/
def quoteChar (c : Char) : Text :=
  match c with
  | '"' => ['\\', '"']
  | '\\' => ['\\', '\\']
  | '\x08' => ['\\', 'b']
  | '\x0c' => ['\\', 'f']
  | '\n' => ['\\', 'n']
  | '\r' => ['\\', 'r']
  | '\t' => ['\\', 't']
  | c =>
    if c < ' ' then
      ['\\', 'u', '0', '0', Nat.digitChar (c.toNat / 16), Nat.digitChar (c.toNat % 16)]
    else [c]

/-- A text between double quotes. -/
def quote (t : Text) : Text := '"' :: t.flatMap quoteChar ++ ['"']

/-! ### Reading -/

/-- The character that a letter after a backslash stands for. -/
def escape? : Char → Option Char
  | '"' => some '"'
  | '\\' => some '\\'
  | '/' => some '/'
  | 'b' => some '\x08'
  | 'f' => some '\x0c'
  | 'n' => some '\n'
  | 'r' => some '\r'
  | 't' => some '\t'
  | _ => none

/-- What stands in front of the closing quote, as numbers, and what stands behind it. -/
def units? : Text → Option (List Nat × Text)
  | [] => none
  | '"' :: t => some ([], t)
  | '\\' :: 'u' :: a :: b :: c :: d :: t =>
    match readDigits? 16 0 [a, b, c, d], units? t with
    | some u, some (us, r) => some (u :: us, r)
    | _, _ => none
  | '\\' :: c :: t =>
    match escape? c, units? t with
    | some e, some (us, r) => some (e.toNat :: us, r)
    | _, _ => none
  | c :: t =>
    if c < ' ' ∨ c = '\\' then none
    else
      match units? t with
      | some (us, r) => some (c.toNat :: us, r)
      | none => none

/-- The character that two halves stand for. -/
def pair? (high low : Nat) : Option Char :=
  if 0xd800 ≤ high ∧ high < 0xdc00 ∧ 0xdc00 ≤ low ∧ low < 0xe000 then
    charOfNat? (0x10000 + (high - 0xd800) * 0x400 + (low - 0xdc00))
  else none

/-- The text that numbers stand for, if no half stands alone. -/
def join? : List Nat → Option Text
  | [] => some []
  | u :: us =>
    match charOfNat? u with
    | some c => (join? us).map (c :: ·)
    | none =>
      match us with
      | [] => none
      | v :: us =>
        match pair? u v with
        | some c => (join? us).map (c :: ·)
        | none => none

/-- What stands behind an opening quote: the text up to the closing quote, if it is one. -/
def quoted? (t : Text) : Option (Option Text × Text) :=
  (units? t).map fun (us, r) => (join? us, r)

/-! ### Reading undoes writing -/

theorem units?_of_plain {c : Char} (hq : c ≠ '"') (hb : c ≠ '\\') (hc : ¬c < ' ') (t : Text) :
    units? (c :: t) = (units? t).map fun (us, r) => (c.toNat :: us, r) := by
  rw [units?.eq_def]
  split
  · simp_all
  · simp_all
  · simp_all
  · simp_all
  · next heq =>
    cases heq
    simp only [hc, hb, or_self, if_false]
    cases units? t <;> rfl

theorem units?_of_escape {c e : Char} (h : escape? c = some e) (t : Text) :
    units? ('\\' :: c :: t) = (units? t).map fun (us, r) => (e.toNat :: us, r) := by
  rw [units?.eq_def]
  split
  · simp_all
  · simp_all
  · next heq =>
    cases heq
    cases h
  · next heq =>
    cases heq
    rw [h]
    cases units? t <;> rfl
  · next hne heq =>
    cases heq
    exact absurd rfl (hne c t rfl)

/-- The number that is written for a control character below the space is its own. -/
theorem readDigits?_control : ∀ n < 32,
    readDigits? 16 0 ['0', '0', Nat.digitChar (n / 16), Nat.digitChar (n % 16)] = some n := by
  decide

/-- What is written for a character is read as the character. -/
theorem units?_quoteChar (c : Char) (t : Text) :
    units? (quoteChar c ++ t) = (units? t).map fun (us, r) => (c.toNat :: us, r) := by
  unfold quoteChar
  split
  · exact units?_of_escape rfl t
  · exact units?_of_escape rfl t
  · exact units?_of_escape rfl t
  · exact units?_of_escape rfl t
  · exact units?_of_escape rfl t
  · exact units?_of_escape rfl t
  · exact units?_of_escape rfl t
  · next hq hb _ _ _ _ _ =>
    split
    · next hc =>
      rw [List.cons_append, List.cons_append, List.cons_append, List.cons_append, List.cons_append,
        List.cons_append, List.nil_append, units?, readDigits?_control c.toNat hc]
      cases units? t <;> rfl
    · next hc => exact units?_of_plain hq hb hc t

theorem units?_quote (t r : Text) :
    units? (t.flatMap quoteChar ++ '"' :: r) = some (t.map Char.toNat, r) := by
  induction t with
  | nil => rfl
  | cons c t ih =>
    rw [List.flatMap_cons, List.append_assoc, units?_quoteChar, ih]
    rfl

theorem join?_map_toNat (t : Text) : join? (t.map Char.toNat) = some t := by
  induction t with
  | nil => rfl
  | cons c t ih =>
    rw [List.map_cons, join?.eq_def]
    simp only [charOfNat?_toNat]
    exact congrArg (Option.map (c :: ·)) ih

/-- **Reading undoes quoting**, whatever stands behind the closing quote. -/
theorem quoted?_quote (t r : Text) :
    quoted? (t.flatMap quoteChar ++ '"' :: r) = some (some t, r) := by
  rw [quoted?, units?_quote]
  exact congrArg (fun x => some (x, r)) (join?_map_toNat t)

end CodeMarkup.Json
