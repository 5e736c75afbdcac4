import ClusterBatch.Slot.Crc16
import Mathlib

/-!
# Checksums

A step of the register is linear: what it makes of a sum is the sum of what it makes of the parts.
Eight steps therefore treat the high octet of a register, for which there is a table, apart from the
low one, which only moves up.

A word is also a polynomial over the two-element field. There a step is multiplication by `X`, up to
a multiple of the polynomial that is divided by, and the register always holds a remainder.

Main statement: `Crc16.checksum_eq_remainder`.
-/

namespace ClusterBatch.Crc16

open Polynomial

variable {w : Nat}

/-! ## Linearity -/

theorem step_eq (register : UInt16) :
    step register = (register <<< 1) ^^^ (if register.toBitVec.msb then polynomial else 0) := by
  have hhigh : 0x8000 ≤ register ↔ register.toBitVec.msb = true := by
    rw [BitVec.msb_eq_decide, decide_eq_true_iff, UInt16.le_iff_toNat_le]
    rfl
  unfold step
  by_cases h : register.toBitVec.msb = true
  · rw [if_pos (hhigh.2 h), if_pos h]
  · rw [if_neg (mt hhigh.1 h), if_neg h, UInt16.xor_zero]

theorem step_xor (one other : UInt16) : step (one ^^^ other) = step one ^^^ step other := by
  have hpolynomial : (if one.toBitVec.msb ^^ other.toBitVec.msb then polynomial else 0) =
      (if one.toBitVec.msb then polynomial else 0) ^^^
        (if other.toBitVec.msb then polynomial else 0) := by
    cases one.toBitVec.msb <;> cases other.toBitVec.msb <;> rfl
  rw [step_eq, step_eq one, step_eq other, UInt16.toBitVec_xor, BitVec.msb_xor, hpolynomial,
    UInt16.shiftLeft_xor]
  ac_rfl

theorem steps_xor (n : Nat) (one other : UInt16) :
    steps n (one ^^^ other) = steps n one ^^^ steps n other := by
  induction n generalizing one other with
  | zero => rfl
  | succ n ih => rw [steps, step_xor, ih, steps, steps]

/-! ## Octets -/

theorem toNat_shiftLeft_one (register : UInt16) :
    (register <<< 1).toNat = register.toNat * 2 % 2 ^ 16 := by
  rw [UInt16.toNat_shiftLeft, Nat.shiftLeft_eq]
  rfl

theorem toNat_shiftLeft_octet (register : UInt16) :
    (register <<< 8).toNat = register.toNat * 2 ^ 8 % 2 ^ 16 := by
  rw [UInt16.toNat_shiftLeft, Nat.shiftLeft_eq]
  rfl

/-- As long as only zeros leave it, a register just moves up. -/
theorem toNat_steps {n : Nat} {register : UInt16} (h : register.toNat * 2 ^ n < 2 ^ 16) :
    (steps n register).toNat = register.toNat * 2 ^ n := by
  induction n generalizing register with
  | zero => simp [steps]
  | succ n ih =>
    have hpow : register.toNat * 2 * 2 ^ n = register.toNat * 2 ^ (n + 1) := by
      rw [Nat.pow_succ', Nat.mul_assoc]
    have hdouble : register.toNat * 2 < 2 ^ 16 :=
      Nat.lt_of_le_of_lt (Nat.le_mul_of_pos_right _ (Nat.two_pow_pos n)) (hpow ▸ h)
    have hstep : (step register).toNat = register.toNat * 2 := by
      have hlow : ¬0x8000 ≤ register := by
        rw [UInt16.le_iff_toNat_le, Nat.not_le]
        exact Nat.lt_of_mul_lt_mul_right hdouble
      rw [step, if_neg hlow, toNat_shiftLeft_one, Nat.mod_eq_of_lt hdouble]
    rw [steps, ih (by rw [hstep, hpow]; exact h), hstep, hpow]

/-- An octet at the low end moves to the high end. -/
theorem steps_low (b : UInt8) : steps 8 b.toUInt16 = b.toUInt16 <<< 8 := by
  have hb : b.toUInt16.toNat * 2 ^ 8 < 2 ^ 16 := by
    have := b.toNat_lt
    rw [UInt8.toNat_toUInt16]
    omega
  apply UInt16.toNat_inj.1
  rw [toNat_steps hb, toNat_shiftLeft_octet, Nat.mod_eq_of_lt hb]

theorem table_toList :
    table.toList = (List.range 256).map fun n => steps 8 (UInt16.ofNat n <<< 8) := by
  decide +kernel

theorem steps_high (b : UInt8) : steps 8 (b.toUInt16 <<< 8) = table.getD b.toNat 0 := by
  have hb : UInt16.ofNat b.toNat = b.toUInt16 := by simp
  rw [Array.getD_eq_getD_getElem?, ← Array.getElem?_toList, table_toList, List.getElem?_map,
    List.getElem?_range b.toNat_lt, Option.map_some, Option.getD_some, hb]

/-- A register with an octet added at the high end, taken apart into its two octets. -/
theorem xor_octet (register : UInt16) (b : UInt8) :
    register ^^^ (b.toUInt16 <<< 8) =
      (((register >>> 8).toUInt8 ^^^ b).toUInt16 <<< 8) ^^^ register.toUInt8.toUInt16 := by
  have height : (8 : UInt16).toBitVec % 16 = 8#16 := rfl
  apply UInt16.toBitVec_inj.1
  ext i hi
  simp only [UInt16.toBitVec_xor, UInt16.toBitVec_shiftLeft, UInt16.toBitVec_shiftRight,
    UInt8.toBitVec_toUInt16, UInt16.toBitVec_toUInt8, UInt8.toBitVec_xor, height,
    BitVec.shiftLeft_eq', BitVec.ushiftRight_eq', BitVec.toNat_ofNat, BitVec.getElem_xor,
    BitVec.getElem_setWidth, BitVec.getElem_shiftLeft, BitVec.getLsbD_xor,
    BitVec.getLsbD_setWidth, BitVec.getLsbD_ushiftRight]
  by_cases h : i < 8
  · simp [h, hi]
  · have hindex : 8 + (i - 8) = i := by omega
    have hlow : i - 8 < 8 := by omega
    simp [h, hi, hindex, hlow]

/-- What the table says about the high octet is what the eight steps of an octet come to. -/
theorem octet_eq (register : UInt16) (b : UInt8) :
    (register <<< 8) ^^^ table.getD ((register >>> 8).toUInt8 ^^^ b).toNat 0 =
      steps 8 (register ^^^ (b.toUInt16 <<< 8)) := by
  have hlow : register.toUInt8.toUInt16 <<< 8 = register <<< 8 := by
    apply UInt16.toNat_inj.1
    rw [toNat_shiftLeft_octet, toNat_shiftLeft_octet, UInt8.toNat_toUInt16, UInt16.toNat_toUInt8]
    omega
  rw [xor_octet, steps_xor, steps_high, steps_low, hlow, UInt16.xor_comm]

theorem checksum_eq_bitwise (data : Bytes) : checksum data = bitwise data := by
  simp only [checksum, bitwise, octet_eq]

/-! ## Polynomials -/

/-- The polynomial with the bits of a word as coefficients, the lowest bit as the constant one. -/
noncomputable def ofWord {w : Nat} (word : BitVec w) : (ZMod 2)[X] :=
  ∑ i ∈ Finset.range w, if word.getLsbD i then X ^ i else 0

/-- The polynomial with the bits of all octets as coefficients, the first octet at the high end. -/
noncomputable def ofOctets (data : Bytes) : (ZMod 2)[X] :=
  data.foldl (fun p b => p * X ^ 8 + ofWord b.toBitVec) 0

/-- The polynomial that is divided by. -/
noncomputable def generator : (ZMod 2)[X] := X ^ 16 + X ^ 12 + X ^ 5 + 1

theorem coeff_bit (b : Bool) (i n : Nat) :
    (if b then (X : (ZMod 2)[X]) ^ i else 0).coeff n = if b ∧ n = i then 1 else 0 := by
  cases b <;> simp [coeff_X_pow]

theorem coeff_ofWord (word : BitVec w) (n : Nat) :
    (ofWord word).coeff n = if word.getLsbD n then 1 else 0 := by
  simp only [ofWord, finsetSum_coeff, coeff_bit]
  by_cases hbit : word.getLsbD n = true
  · have hn : n ∈ Finset.range w := Finset.mem_range.2 (BitVec.lt_of_getLsbD hbit)
    rw [if_pos hbit, Finset.sum_eq_single_of_mem n hn fun i _ hi => if_neg fun h => hi h.2.symm,
      if_pos ⟨hbit, rfl⟩]
  · rw [if_neg hbit]
    refine Finset.sum_eq_zero fun i _ => if_neg ?_
    rintro ⟨hi, rfl⟩
    exact hbit hi

theorem ofWord_injective : Function.Injective (ofWord : BitVec w → (ZMod 2)[X]) := by
  intro one other h
  apply BitVec.eq_of_getLsbD_eq
  intro i hi
  have hcoeff := congrArg (fun p => p.coeff i) h
  simp only [coeff_ofWord] at hcoeff
  cases hone : one.getLsbD i <;> cases hother : other.getLsbD i <;> simp_all

theorem degree_ofWord_lt (word : BitVec w) : (ofWord word).degree < w := by
  rw [degree_lt_iff_coeff_zero]
  intro n hn
  rw [coeff_ofWord, BitVec.getLsbD_of_ge _ _ hn]
  rfl

theorem ofWord_xor (one other : BitVec w) : ofWord (one ^^^ other) = ofWord one + ofWord other := by
  ext n
  rw [coeff_add, coeff_ofWord, coeff_ofWord, coeff_ofWord, BitVec.getLsbD_xor]
  cases one.getLsbD n <;> cases other.getLsbD n <;> decide

/-- A word that moves up by one place loses its highest bit. -/
theorem X_mul_ofWord (word : BitVec w) :
    X * ofWord word = ofWord (word <<< 1) + if word.msb then X ^ w else 0 := by
  ext n
  rw [coeff_add, coeff_bit, coeff_ofWord, BitVec.getLsbD_shiftLeft, BitVec.msb_eq_getLsbD_last]
  cases n with
  | zero =>
    rcases Nat.eq_zero_or_pos w with rfl | hw
    · simp
    · simp [hw.ne]
  | succ n =>
    rw [coeff_X_mul, coeff_ofWord]
    rcases Nat.lt_trichotomy (n + 1) w with hlt | rfl | hgt
    · simp [hlt, hlt.ne]
    · simp
    · have hbit : word.getLsbD n = false := BitVec.getLsbD_of_ge _ _ (Nat.le_of_lt_succ hgt)
      simp [hbit, hgt.ne', Nat.not_lt.2 hgt.le]

theorem X_pow_mul_ofWord_octet (b : UInt8) :
    X ^ 8 * ofWord b.toBitVec = ofWord (b.toUInt16 <<< 8).toBitVec := by
  ext n
  have height : (8 : UInt16).toBitVec % 16 = 8#16 := rfl
  simp only [coeff_X_pow_mul', coeff_ofWord, UInt16.toBitVec_shiftLeft, UInt8.toBitVec_toUInt16,
    height, BitVec.shiftLeft_eq', BitVec.toNat_ofNat, BitVec.getLsbD_shiftLeft,
    BitVec.getLsbD_setWidth]
  by_cases hn : 8 ≤ n
  · by_cases hbit : b.toBitVec.getLsbD (n - 8) = true
    · have := BitVec.lt_of_getLsbD hbit
      simp [hn, hbit]
      omega
    · simp [hn, hbit]
  · have : n < 8 := by omega
    simp [hn, this]

/-! ## Division -/

theorem monic_generator : generator.Monic := by
  unfold generator
  monicity!

theorem degree_generator : generator.degree = (16 : Nat) := by
  unfold generator
  compute_degree!

theorem ofWord_polynomial : ofWord polynomial.toBitVec = X ^ 12 + X ^ 5 + 1 := by
  simp [ofWord, polynomial, Finset.sum_range_succ]
  ring

/-- A single step multiplies the register by `X`, up to a multiple of the generator. -/
theorem generator_dvd_step (register : UInt16) :
    generator ∣ X * ofWord register.toBitVec - ofWord (step register).toBitVec := by
  have hshift : (register <<< 1).toBitVec = register.toBitVec <<< 1 := rfl
  have hgenerator : X ^ 16 - ofWord polynomial.toBitVec = generator := by
    rw [ofWord_polynomial, CharTwo.sub_eq_add, generator]
    ring
  rw [step_eq, UInt16.toBitVec_xor, ofWord_xor, X_mul_ofWord, hshift, add_sub_add_left_eq_sub]
  cases register.toBitVec.msb with
  | false => simp [ofWord]
  | true => simp [hgenerator]

theorem generator_dvd_steps (n : Nat) (register : UInt16) :
    generator ∣ X ^ n * ofWord register.toBitVec - ofWord (steps n register).toBitVec := by
  induction n generalizing register with
  | zero => simp [steps]
  | succ n ih =>
    have hsum : X ^ (n + 1) * ofWord register.toBitVec - ofWord (steps (n + 1) register).toBitVec =
        X ^ n * (X * ofWord register.toBitVec - ofWord (step register).toBitVec) +
          (X ^ n * ofWord (step register).toBitVec -
            ofWord (steps n (step register)).toBitVec) := by
      rw [steps]
      ring
    rw [hsum]
    exact dvd_add (Dvd.dvd.mul_left (generator_dvd_step register) _) (ih (step register))

theorem generator_dvd_bitwise (data : Bytes) :
    generator ∣ ofOctets data * X ^ 16 - ofWord (bitwise data).toBitVec := by
  -- Octets come in at the back, so the last one is taken off.
  induction data using List.reverseRecOn with
  | nil => simp [ofOctets, bitwise, ofWord]
  | append_singleton data b ih =>
    let register := bitwise data ^^^ (b.toUInt16 <<< 8)
    have hdata : ofOctets (data ++ [b]) = ofOctets data * X ^ 8 + ofWord b.toBitVec := by
      simp [ofOctets]
    have hbitwise : bitwise (data ++ [b]) = steps 8 register := by
      simp [bitwise, register]
    have hregister : ofWord register.toBitVec =
        ofWord (bitwise data).toBitVec + X ^ 8 * ofWord b.toBitVec := by
      rw [UInt16.toBitVec_xor, ofWord_xor, X_pow_mul_ofWord_octet]
    have hsum : ofOctets (data ++ [b]) * X ^ 16 - ofWord (bitwise (data ++ [b])).toBitVec =
        X ^ 8 * (ofOctets data * X ^ 16 - ofWord (bitwise data).toBitVec) +
          (X ^ 8 * ofWord register.toBitVec - ofWord (steps 8 register).toBitVec) := by
      rw [hdata, hbitwise, hregister]
      ring
    rw [hsum]
    exact dvd_add (Dvd.dvd.mul_left ih _) (generator_dvd_steps 8 register)

/-- The checksum is the same whether an octet is taken at a time or a bit. It is the one register
that holds the remainder of the octets, followed by sixteen zero bits. -/
theorem checksum_eq_remainder (data : Bytes) :
    checksum data = bitwise data ∧ ∀ register : UInt16,
      register = checksum data ↔
        ofWord register.toBitVec = (ofOctets data * X ^ 16) %ₘ generator := by
  have hremainder : (ofOctets data * X ^ 16) %ₘ generator =
      ofWord (bitwise data).toBitVec := by
    have hdegree : (ofWord (bitwise data).toBitVec).degree < generator.degree := by
      rw [degree_generator]
      exact degree_ofWord_lt _
    rw [modByMonic_eq_of_dvd_sub monic_generator (generator_dvd_bitwise data)]
    exact (modByMonic_eq_self_iff monic_generator).2 hdegree
  refine ⟨checksum_eq_bitwise data, fun register => ?_⟩
  rw [hremainder, checksum_eq_bitwise, ofWord_injective.eq_iff, UInt16.toBitVec_inj]

example : checksum [0x31, 0x32, 0x33, 0x34, 0x35, 0x36, 0x37, 0x38, 0x39] = 0x31c3 := by
  decide +kernel

end ClusterBatch.Crc16
