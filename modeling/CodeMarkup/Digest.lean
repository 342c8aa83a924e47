import CodeMarkup.Text

/-!
# Digests of bytes

A digest of 64 bits of a row of bytes (`CodeMarkup.Digest.ofBytes`): SipHash with one
round for each eight bytes, three rounds in the end, and zero for a key. The bytes are
absorbed in words of eight; the last word has the bytes that are left over, and in its
highest byte the number of all bytes.
-/

namespace CodeMarkup.Digest

/-- Four words, into which bytes are mixed. -/
structure State where
  /-- The first word. -/
  a : UInt64
  /-- The second word. -/
  b : UInt64
  /-- The third word. -/
  c : UInt64
  /-- The fourth word. -/
  d : UInt64
  deriving DecidableEq, Repr

/-- The word with its bits moved up by `n` places, those at the top coming in at the bottom. -/
def rotate (n w : UInt64) : UInt64 := (w <<< n) ||| (w >>> (64 - n))

/-- The state before anything has been absorbed. -/
def State.initial : State :=
  ⟨0x736f6d6570736575, 0x646f72616e646f6d, 0x6c7967656e657261, 0x7465646279746573⟩

/-- One round of mixing. -/
def State.round (s : State) : State :=
  let a := s.a + s.b
  let b := rotate 13 s.b ^^^ a
  let a := rotate 32 a
  let c := s.c + s.d
  let d := rotate 16 s.d ^^^ c
  let a := a + d
  let d := rotate 21 d ^^^ a
  let c := c + b
  ⟨a, rotate 17 b ^^^ c, rotate 32 c, d⟩

/-- The state after a word. -/
def State.absorb (w : UInt64) (s : State) : State :=
  let s := { s with d := s.d ^^^ w }.round
  { s with a := s.a ^^^ w }

/-- The word of at most eight bytes, the lowest byte first. -/
def word (bytes : List UInt8) : UInt64 := bytes.foldr (fun b w => (w <<< 8) ||| b.toUInt64) 0

/-- The eight bytes of a word, the lowest byte first. -/
def bytesOf (w : UInt64) : List UInt8 :=
  ([0, 8, 16, 24, 32, 40, 48, 56] : List UInt64).map fun n => (w >>> n).toUInt8

/-- The state after as many words as there are whole ones, and the bytes that are left over. -/
def State.absorbAll : State → List UInt8 → State × List UInt8
  | s, b₀ :: b₁ :: b₂ :: b₃ :: b₄ :: b₅ :: b₆ :: b₇ :: bytes =>
    absorbAll (s.absorb (word [b₀, b₁, b₂, b₃, b₄, b₅, b₆, b₇])) bytes
  | s, bytes => (s, bytes)

/-- The digest of a row of bytes. -/
def ofBytes (bytes : List UInt8) : UInt64 :=
  let (s, rest) := State.initial.absorbAll bytes
  let s := s.absorb (word rest ||| (bytes.length.toUInt64 <<< 56))
  let s := { s with c := s.c ^^^ 0xff }.round.round.round
  s.a ^^^ s.b ^^^ s.c ^^^ s.d

end CodeMarkup.Digest
