import CodeMarkup.Text

/-!
# Escaped text

In markup the characters `&`, `<` and `>` are written as *entities*
(`CodeMarkup.Markup.escape`); quotes stay as they are. Reading a text back
(`CodeMarkup.Markup.unescape`) replaces each entity once, from left to right, so
that `&amp;lt;` is `&lt;` and not `<`; an ampersand that begins no entity stands for
itself.

The texts that escaping produces are those of `CodeMarkup.Markup.IsEscaped`: no
angle bracket, and every ampersand begins an entity.
-/

namespace CodeMarkup.Markup

/-- The characters that are escaped. -/
inductive Entity where
  /-- The ampersand. -/
  | amp
  /-- The angle bracket that opens. -/
  | lt
  /-- The angle bracket that closes. -/
  | gt
  deriving DecidableEq, Repr

namespace Entity

/-- The character that an entity stands for. -/
def char : Entity → Char
  | amp => '&'
  | lt => '<'
  | gt => '>'

/-- What is written for an entity behind the ampersand. -/
def tail : Entity → Text
  | amp => ['a', 'm', 'p', ';']
  | lt => ['l', 't', ';']
  | gt => ['g', 't', ';']

/-- What is written for an entity. -/
def text (e : Entity) : Text := '&' :: e.tail

/-- The entity of a character. -/
def ofChar? : Char → Option Entity
  | '&' => some amp
  | '<' => some lt
  | '>' => some gt
  | _ => none

end Entity

/-! ### Escaping -/

/-- What is written for one character. -/
def escapeChar (c : Char) : Text :=
  match Entity.ofChar? c with
  | some e => e.text
  | none => [c]

/-- A text with its ampersands and angle brackets written as entities. -/
def escape (t : Text) : Text := t.flatMap escapeChar

@[simp] theorem escape_nil : escape [] = [] := rfl

@[simp] theorem escape_cons (c : Char) (t : Text) : escape (c :: t) = escapeChar c ++ escape t := rfl

@[simp] theorem escape_append (s t : Text) : escape (s ++ t) = escape s ++ escape t := by
  simp [escape]

/-! ### Reading back -/

/-- A text with each of its entities replaced by the character it stands for, in one
pass. -/
def unescape : Text → Text
  | '&' :: 'a' :: 'm' :: 'p' :: ';' :: t => '&' :: unescape t
  | '&' :: 'l' :: 't' :: ';' :: t => '<' :: unescape t
  | '&' :: 'g' :: 't' :: ';' :: t => '>' :: unescape t
  | c :: t => c :: unescape t
  | [] => []

/-- The escaped texts: those put together from entities and from characters that need
no entity. -/
inductive IsEscaped : Text → Prop where
  /-- The empty text. -/
  | nil : IsEscaped []
  /-- A character that needs no entity, before an escaped text. -/
  | plain {c : Char} {t : Text} (h : Entity.ofChar? c = none) (ht : IsEscaped t) :
      IsEscaped (c :: t)
  /-- An entity before an escaped text. -/
  | entity (e : Entity) {t : Text} (ht : IsEscaped t) : IsEscaped (e.text ++ t)

end CodeMarkup.Markup
