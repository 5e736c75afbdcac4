import ClusterBatch.Text.Utf8
import Mathlib

/-!
# Lossy reading of text

Octets that are UTF-8 lose nothing when they are read with malformed stretches replaced. The octets
of one character are read as that character whatever follows them, since the first octet promises
exactly the others; the rest is an induction on the text.

Main statement: `Utf8.lossyChars_encode`.
-/

namespace ClusterBatch.Utf8

theorem encode_eq_flatMap (text : String) :
    encode text = text.toList.flatMap String.utf8EncodeChar := by
  have h : text.toByteArray = text.toList.utf8Encode := by
    rw [← String.toByteArray_ofList, String.ofList_toList]
  rw [encode, h, List.utf8Encode, List.data_toByteArray, List.toList_toArray]

/-- The octet that continues a character with the lowest six bits of `n`. -/
def continuation (n : Nat) : UInt8 := UInt8.ofNat (n % 64 + 128)

theorem toNat_continuation (n : Nat) : (continuation n).toNat = n % 64 + 128 :=
  UInt8.toNat_ofNat_of_lt' (by simp only [UInt8.size]; omega)

variable {n : Nat}

/-! ## First octets -/

theorem lead_two (h : 0x80 ≤ n) (h' : n < 0x800) :
    (UInt8.ofNat (n / 64 % 32 + 192)).toNat = n / 64 + 192 ∧
      lead (UInt8.ofNat (n / 64 % 32 + 192)) = some (1, 0x80, 0xbf) := by
  have hoctet : (UInt8.ofNat (n / 64 % 32 + 192)).toNat = n / 64 + 192 := by
    rw [UInt8.toNat_ofNat_of_lt' (by simp only [UInt8.size]; omega)]
    omega
  exact ⟨hoctet, by grind [lead]⟩

/-- The second octet of three is restricted for small numbers, which have shorter forms, and for
those in front of the surrogates. -/
theorem lead_three (h : 0x800 ≤ n) (h' : n < 0x10000) :
    (UInt8.ofNat (n / 4096 % 16 + 224)).toNat = n / 4096 + 224 ∧
      lead (UInt8.ofNat (n / 4096 % 16 + 224)) = some (2, if n < 0x1000 then 0xa0 else 0x80,
        if 0xd000 ≤ n ∧ n < 0xe000 then 0x9f else 0xbf) := by
  have hoctet : (UInt8.ofNat (n / 4096 % 16 + 224)).toNat = n / 4096 + 224 := by
    rw [UInt8.toNat_ofNat_of_lt' (by simp only [UInt8.size]; omega)]
    omega
  exact ⟨hoctet, by grind [lead]⟩

/-- The second octet of four is restricted for small numbers and for those next to the last. -/
theorem lead_four (h : 0x10000 ≤ n) (h' : n < 0x110000) :
    (UInt8.ofNat (n / 262144 % 8 + 240)).toNat = n / 262144 + 240 ∧
      lead (UInt8.ofNat (n / 262144 % 8 + 240)) = some (3, if n < 0x40000 then 0x90 else 0x80,
        if 0x100000 ≤ n then 0x8f else 0xbf) := by
  have hoctet : (UInt8.ofNat (n / 262144 % 8 + 240)).toNat = n / 262144 + 240 := by
    rw [UInt8.toNat_ofNat_of_lt' (by simp only [UInt8.size]; omega)]
    omega
  exact ⟨hoctet, by grind [lead]⟩

/-! ## Characters -/

/-- A first octet with all the octets that it promises is read as one character. -/
theorem lossyChars_cons_append {c : Char} {b : UInt8} {count low high : Nat} {tail : Bytes}
    (rest : Bytes) (hlead : lead b = some (count, low, high)) (hlength : tail.length = count)
    (hcontinued : continued low high count (tail ++ rest) = count)
    (hnumber : number (b.toNat % (64 >>> count)) tail = c.val.toNat) :
    lossyChars (b :: (tail ++ rest)) = c :: lossyChars rest := by
  have hb : ¬b.toNat < 0x80 := by
    intro hlt
    have hnone : lead b = none := if_pos (by omega)
    simp [hnone] at hlead
  subst hlength
  rw [lossyChars, if_neg hb, hlead]
  simp [hcontinued, hnumber]

theorem lossyChars_utf8EncodeChar (c : Char) (rest : Bytes) :
    lossyChars (String.utf8EncodeChar c ++ rest) = c :: lossyChars rest := by
  have hvalid : c.val.toNat < 0xd800 ∨ 0xdfff < c.val.toNat ∧ c.val.toNat < 0x110000 := c.valid
  have hc : Char.ofNat c.val.toNat = c := Char.ofNat_toNat c
  fun_cases String.utf8EncodeChar c with
  | case1 v h =>
    have hoctet : (UInt8.ofNat v).toNat = v :=
      UInt8.toNat_ofNat_of_lt' (by simp only [UInt8.size]; omega)
    rw [List.singleton_append, lossyChars, hoctet, if_pos (by omega), hc]
  | case2 v h h' =>
    obtain ⟨hoctet, hlead⟩ := lead_two (n := v) (by omega) (by omega)
    have hcontinued : continued 0x80 0xbf 1 ([continuation v] ++ rest) = 1 := by
      grind [continued, toNat_continuation]
    have hnumber : number ((v / 64 + 192) % (64 >>> 1)) [continuation v] = v := by
      simp only [number, List.foldl_cons, List.foldl_nil, toNat_continuation, Nat.reduceShiftRight]
      omega
    exact lossyChars_cons_append rest hlead rfl hcontinued (hoctet ▸ hnumber)
  | case3 v h h' h'' =>
    obtain ⟨hoctet, hlead⟩ := lead_three (n := v) (by omega) (by omega)
    have hcontinued : continued (if v < 0x1000 then 0xa0 else 0x80)
        (if 0xd000 ≤ v ∧ v < 0xe000 then 0x9f else 0xbf) 2
        ([continuation (v / 64), continuation v] ++ rest) = 2 := by
      grind [continued, toNat_continuation]
    have hnumber : number ((v / 4096 + 224) % (64 >>> 2))
        [continuation (v / 64), continuation v] = v := by
      simp only [number, List.foldl_cons, List.foldl_nil, toNat_continuation, Nat.reduceShiftRight]
      omega
    exact lossyChars_cons_append rest hlead rfl hcontinued (hoctet ▸ hnumber)
  | case4 v h h' h'' =>
    obtain ⟨hoctet, hlead⟩ := lead_four (n := v) (by omega) (by omega)
    have hcontinued : continued (if v < 0x40000 then 0x90 else 0x80)
        (if 0x100000 ≤ v then 0x8f else 0xbf) 3
        ([continuation (v / 4096), continuation (v / 64), continuation v] ++ rest) = 3 := by
      grind [continued, toNat_continuation]
    have hnumber : number ((v / 262144 + 240) % (64 >>> 3))
        [continuation (v / 4096), continuation (v / 64), continuation v] = v := by
      simp only [number, List.foldl_cons, List.foldl_nil, toNat_continuation, Nat.reduceShiftRight]
      omega
    exact lossyChars_cons_append rest hlead rfl hcontinued (hoctet ▸ hnumber)

/-- A text is read back from its octets. -/
@[simp] theorem lossyChars_encode (text : String) : lossyChars (encode text) = text.toList := by
  rw [encode_eq_flatMap]
  induction text.toList with
  | nil => rw [List.flatMap_nil, lossyChars]
  | cons c rest ih => rw [List.flatMap_cons, lossyChars_utf8EncodeChar, ih]

end ClusterBatch.Utf8
