import Mathlib.Data.List.Basic
import Throttle.Text.Percent

/-!
# Percent-encoding and reading

Percent-encoding has no characters but percent signs, letters and digits.  Main statement: whatever
follows the encoding of a text, its bytes are read back, and whether there is a text in all depends
only on what follows.
-/

namespace Throttle

namespace Text

/-- Whether a character may occur in percent-encoding. -/
def isPercentChar (c : Char) : Bool := c == '%' || c.isAlphanum

theorem isPercentChar_of_mem_percentByte {b : UInt8} {c : Char} (hc : c ∈ percentByte b) :
    isPercentChar c = true := by
  have hall : ∀ n ∈ List.range 256, (percentByte (UInt8.ofNat n)).all isPercentChar = true := by
    decide +kernel
  rw [← UInt8.ofNat_toNat (x := b)] at hc
  exact List.all_eq_true.1 (hall b.toNat (List.mem_range.2 b.toNat_lt)) c hc

theorem isPercentChar_of_mem_percentBytes {bs : List UInt8} {c : Char}
    (hc : c ∈ percentBytes bs) : isPercentChar c = true := by
  obtain ⟨b, -, hb⟩ := List.mem_flatMap.1 hc
  exact isPercentChar_of_mem_percentByte hb

theorem percentBytes_eq_nil_iff {bs : List UInt8} : percentBytes bs = [] ↔ bs = [] := by
  have hne : ∀ b, percentByte b ≠ [] := by
    intro b
    unfold percentByte
    split <;> simp
  cases bs <;> simp [percentBytes, hne]

theorem percentBytesOf_of_ne {c : Char} (hc : c ≠ '%') (cs : List Char) :
    percentBytesOf (c :: cs) = (String.singleton c).toUTF8.toList ++ percentBytesOf cs := by
  rw [percentBytesOf]
  rintro a b rest rfl
  exact absurd rfl hc

theorem toUTF8_singleton_of_isPlainByte {b : UInt8} (hb : isPlainByte b = true) :
    Char.ofNat b.toNat ≠ '%' ∧ (String.singleton (Char.ofNat b.toNat)).toUTF8.toList = [b] := by
  have hall : ∀ n ∈ List.range 256, isPlainByte (UInt8.ofNat n) = true →
      Char.ofNat n ≠ '%' ∧ (String.singleton (Char.ofNat n)).toUTF8.toList = [UInt8.ofNat n] := by
    decide +kernel
  have hn := hall b.toNat (List.mem_range.2 b.toNat_lt)
  rw [UInt8.ofNat_toNat] at hn
  exact hn hb

theorem percentBytesOf_percentByte (b : UInt8) (cs : List Char) :
    percentBytesOf (percentByte b ++ cs) = b :: percentBytesOf cs := by
  unfold percentByte
  split
  · next hplain =>
    obtain ⟨hne, hbytes⟩ := toUTF8_singleton_of_isPlainByte hplain
    rw [List.singleton_append, percentBytesOf_of_ne hne, hbytes, List.singleton_append]
  · have hb : b.toNat < 256 := b.toNat_lt
    have hhigh : b.toNat / 16 < 16 := by omega
    have hlow : b.toNat % 16 < 16 := by omega
    rw [List.cons_append, List.cons_append, List.cons_append, List.nil_append, percentBytesOf,
      hexValue?_hexDigit hhigh, hexValue?_hexDigit hlow]
    dsimp only
    rw [Nat.div_add_mod, UInt8.ofNat_toNat]

/-- What was encoded reads back, whatever follows it. -/
theorem percentBytesOf_percentBytes (bs : List UInt8) (cs : List Char) :
    percentBytesOf (percentBytes bs ++ cs) = bs ++ percentBytesOf cs := by
  induction bs with
  | nil => rfl
  | cons b bs ih =>
      rw [percentBytes, List.flatMap_cons, List.append_assoc, percentBytesOf_percentByte]
      exact congrArg (b :: ·) ih

theorem toList_loop_eq (bytes : ByteArray) (i : Nat) (done : List UInt8) :
    ByteArray.toList.loop bytes i done = done.reverse ++ bytes.data.toList.drop i := by
  induction i, done using ByteArray.toList.loop.induct bytes with
  | case1 i done hlt ih =>
      have hi : i < bytes.data.toList.length := hlt
      have hget : bytes.get! i = bytes.data.toList[i] := getElem!_pos bytes.data i hlt
      rw [ByteArray.toList.loop, if_pos hlt, ih, List.drop_eq_getElem_cons hi, hget,
        List.reverse_cons, List.append_assoc, List.singleton_append]
  | case2 i done hge =>
      have hi : bytes.data.toList.length ≤ i := Nat.le_of_not_lt hge
      rw [ByteArray.toList.loop, if_neg hge, List.drop_eq_nil_of_le hi, List.append_nil]

theorem toList_eq_data (bytes : ByteArray) : bytes.toList = bytes.data.toList := by
  rw [ByteArray.toList, toList_loop_eq, List.drop_zero, List.reverse_nil, List.nil_append]

theorem isValidUTF8_encode_append_iff (cs : List Char) (bytes : ByteArray) :
    (cs.utf8Encode ++ bytes).IsValidUTF8 ↔ bytes.IsValidUTF8 := by
  induction cs with
  | nil => rw [List.utf8Encode_nil, ByteArray.empty_append]
  | cons c cs ih =>
      rw [List.utf8Encode_cons, ByteArray.append_assoc,
        ByteArray.isValidUTF8_utf8Encode_singleton_append_iff, ih]

theorem percentBytes_toUTF8_eq_nil_iff {s : String} :
    percentBytes s.toUTF8.toList = [] ↔ s = "" := by
  rw [percentBytes_eq_nil_iff, toList_eq_data]
  constructor
  · intro hnil
    have hsize : s.toUTF8.size = 0 := congrArg List.length hnil
    exact String.utf8ByteSize_eq_zero_iff.1 hsize
  · rintro rfl
    rfl

theorem fromUTF8?_toUTF8 (s : String) : String.fromUTF8? s.toUTF8 = some s := by
  have hvalid : s.toUTF8.IsValidUTF8 := s.isValidUTF8
  rw [String.fromUTF8?, dif_pos hvalid]
  rfl

/-- A text is read back from its percent-encoding. -/
theorem percentText?_percentBytes (s : String) :
    percentText? (percentBytes s.toUTF8.toList) = some s := by
  have hbytes := percentBytesOf_percentBytes s.toUTF8.toList []
  rw [List.append_nil, percentBytesOf, List.append_nil] at hbytes
  rw [percentText?, hbytes, toList_eq_data]
  exact fromUTF8?_toUTF8 s

/-- Whether there is a text after the bytes of another does not depend on that one. -/
theorem isNone_percentText? (s : String) (cs : List Char) :
    (percentText? (percentBytes s.toUTF8.toList ++ cs)).isNone = (percentText? cs).isNone := by
  have hbytes : ByteArray.mk (percentBytesOf (percentBytes s.toUTF8.toList ++ cs)).toArray =
      s.toList.utf8Encode ++ ByteArray.mk (percentBytesOf cs).toArray := by
    rw [percentBytesOf_percentBytes, toList_eq_data, String.toUTF8_eq_toByteArray,
      ← String.toByteArray_ofList, String.ofList_toList]
    exact ByteArray.ext (by simp)
  rw [percentText?, percentText?, hbytes, String.fromUTF8?, String.fromUTF8?]
  simp only [isValidUTF8_encode_append_iff]
  split <;> rfl

end Text

end Throttle
