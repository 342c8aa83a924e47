import Mathlib.Data.List.Basic
import Mathlib.Data.String.Basic

/-!
# The order of strings is the order of their bytes

Strings are compared character by character. Their bytes in UTF-8 are in the same order
(`CodeMarkup.bytes_lt_bytes`): the first byte of a character tells how many there are, and
grows with their number, and among characters of equally many bytes the leading ones
weigh more.
-/

namespace CodeMarkup

/-- The bytes of a string in UTF-8. -/
def bytes (s : String) : List UInt8 := s.toByteArray.data.toList

theorem bytes_eq_flatMap (s : String) : bytes s = s.toList.flatMap String.utf8EncodeChar := by
  have h : s.toByteArray = s.toList.utf8Encode := by
    rw [← String.toByteArray_ofList, String.ofList_toList]
  rw [bytes, h, List.utf8Encode]
  simp

/-- The bytes of a smaller character are smaller, whatever comes behind them. -/
theorem utf8EncodeChar_append_lt {c d : Char} (h : c < d) (s t : List UInt8) :
    String.utf8EncodeChar c ++ s < String.utf8EncodeChar d ++ t := by
  have hval : c.val.toNat < d.val.toNat := h
  have hmax : d.val.toNat < 0x110000 := by
    rcases d.valid with hd | ⟨-, hd⟩
    · exact Nat.lt_trans hd (by decide)
    · exact hd
  unfold String.utf8EncodeChar
  dsimp only
  -- Each byte holds six bits more than the ones behind it.
  have hdiv : ∀ n : Nat, n / 4096 = n / 64 / 64 ∧ n / 262144 = n / 64 / 64 / 64 := by omega
  simp only [(hdiv _).1, (hdiv _).2]
  split_ifs <;>
    simp only [List.cons_append, List.nil_append, List.cons_lt_cons_iff, UInt8.lt_iff_toNat_lt,
      ← UInt8.toNat_inj, UInt8.toNat_ofNat'] <;>
    simp (disch := omega) only [Nat.mod_eq_of_lt] <;>
    omega

theorem flatMap_utf8EncodeChar_lt {s t : List Char} (h : s < t) :
    s.flatMap String.utf8EncodeChar < t.flatMap String.utf8EncodeChar := by
  induction h with
  | @nil d t =>
    rw [List.flatMap_cons]
    have hne := String.utf8EncodeChar_ne_nil (c := d)
    cases hd : String.utf8EncodeChar d with
    | nil => exact absurd hd hne
    | cons b bs => exact List.nil_lt_cons _ _
  | @rel c s d t hcd => exact utf8EncodeChar_append_lt hcd _ _
  | @cons c s t _ ih =>
    rw [List.flatMap_cons, List.flatMap_cons]
    induction String.utf8EncodeChar c with
    | nil => exact ih
    | cons b bs ih' => exact List.cons_lt_cons_iff.2 (.inr ⟨rfl, ih'⟩)

/-- **The order of strings is the order of their bytes.** -/
theorem bytes_lt_bytes {s t : String} (h : s < t) : bytes s < bytes t := by
  rw [bytes_eq_flatMap, bytes_eq_flatMap]
  exact flatMap_utf8EncodeChar_lt (String.lt_iff_toList_lt.1 h)

end CodeMarkup
