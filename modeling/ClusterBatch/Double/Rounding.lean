import ClusterBatch.Double.Basic

/-!
# Rounding a fraction to a double

A fraction is rounded to the nearest double; of two equally near ones, the one whose last bit is
zero is taken. All arithmetic is exact, on natural numbers.

Main statement: `Double.nearest_units`, a fraction that is the value of a double rounds to it.
-/

namespace ClusterBatch.Double

/-- The whole number nearest to `num / den`, an exact half going to the even neighbour. -/
def roundedQuotient (num den : Nat) : Nat :=
  let q := num / den
  let r := num % den
  if den < 2 * r ∨ (den = 2 * r ∧ q % 2 = 1) then q + 1 else q

/-- The magnitude of the double nearest to `num / den`, for a positive `den`. Values past the
largest double give infinity. -/
def nearest (num den : Nat) : Fin 0x7ff0000000000001 :=
  let scaled := num <<< fineness
  let k := (scaled / den).log2 - 52
  let m := roundedQuotient scaled (den <<< k) + k * 0x10000000000000
  if h : m < 0x7ff0000000000001 then ⟨m, h⟩ else infinite

theorem roundedQuotient_mul (n den : Nat) (h : 0 < den) :
    roundedQuotient (n * den) den = n := by
  simp [roundedQuotient, Nat.mul_div_cancel _ h, Nat.mul_mod_left]
  omega

theorem scale_mul_le (m : Nat) : scale m * 0x10000000000000 ≤ m := by
  unfold scale; omega

theorem log2_units (m : Nat) : (units m).log2 - 52 = scale m := by
  by_cases h : scale m = 0
  · have hm : m < 2 ^ 53 := by unfold scale at h; omega
    by_cases hz : m = 0
    · subst hz; decide
    · have : (units m).log2 < 53 := (Nat.log2_lt (by simp [units, h, hz])).2 (by simpa [units, h])
      omega
  · have h₁ : 2 ^ 52 ≤ m - scale m * 0x10000000000000 := by unfold scale at *; omega
    have h₂ : m - scale m * 0x10000000000000 < 2 ^ 53 := by unfold scale at *; omega
    have hlo : 2 ^ (52 + scale m) ≤ units m := by
      rw [units, Nat.shiftLeft_eq, Nat.pow_add]; exact Nat.mul_le_mul_right _ h₁
    have hhi : units m < 2 ^ (53 + scale m) := by
      rw [units, Nat.shiftLeft_eq, Nat.pow_add]
      exact Nat.mul_lt_mul_of_pos_right h₂ (Nat.two_pow_pos _)
    have hne : units m ≠ 0 := Nat.ne_of_gt (Nat.lt_of_lt_of_le (Nat.two_pow_pos _) hlo)
    have := (Nat.le_log2 hne).2 hlo
    have := (Nat.log2_lt hne).2 hhi
    omega

/-- Whatever the two sides of the fraction are, if it is the value of a double then it rounds to
that double. -/
theorem nearest_units (m : Fin 0x7ff0000000000001) (num den : Nat) (hden : 0 < den)
    (h : num <<< fineness = units m * den) : nearest num den = m := by
  have hs := scale_mul_le m
  have hk : (num <<< fineness / den).log2 - 52 = scale m := by
    rw [h, Nat.mul_div_cancel _ hden, log2_units]
  have hq : roundedQuotient (num <<< fineness) (den <<< scale m)
      = m - scale m * 0x10000000000000 := by
    rw [h, units, Nat.shiftLeft_eq, Nat.shiftLeft_eq, Nat.mul_assoc, Nat.mul_comm _ den]
    exact roundedQuotient_mul _ _ (Nat.mul_pos hden (Nat.two_pow_pos _))
  have hm : (m : Nat) - scale m * 0x10000000000000 + scale m * 0x10000000000000 = m :=
    Nat.sub_add_cancel hs
  simp only [nearest, hk, hq, hm]
  rw [dif_pos m.isLt]

end ClusterBatch.Double
