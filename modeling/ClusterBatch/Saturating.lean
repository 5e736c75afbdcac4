/-!
# Saturating arithmetic

Words of 64 bits that stop at the largest word where a product or a power has no room, instead of
starting again at zero. A number and the word nearest to it can be exchanged before such an
operation or after it: whatever saturates on the way to the result would saturate in the end.

Main statements: `Saturating.mul_ofNat` and `Saturating.pow_eq`.
-/

namespace ClusterBatch.Saturating

/-- The word nearest to a number: the number itself, or the largest word. -/
def ofNat (n : Nat) : UInt64 := UInt64.ofNat (min n (UInt64.size - 1))

def mul (a b : UInt64) : UInt64 := ofNat (a.toNat * b.toNat)

/-- A power of a word, or the largest word. It is squared from the power with half the exponent. -/
def pow (a : UInt64) (n : Nat) : UInt64 :=
  if h : n = 0 then 1
  else
    let root := pow a (n / 2)
    if n % 2 = 0 then mul root root else mul (mul root root) a
termination_by n
decreasing_by exact Nat.div_lt_self (Nat.pos_of_ne_zero h) (by decide)

@[simp] theorem toNat_ofNat (n : Nat) : (ofNat n).toNat = min n (UInt64.size - 1) :=
  UInt64.toNat_ofNat_of_lt' (Nat.lt_of_le_of_lt (Nat.min_le_right _ _) (by decide))

@[simp] theorem ofNat_toNat (a : UInt64) : ofNat a.toNat = a := by
  have h : a.toNat ≤ UInt64.size - 1 := Nat.le_pred_of_lt a.toNat_lt
  rw [ofNat, Nat.min_eq_left h, UInt64.ofNat_toNat]

/-- A factor that is capped makes the product too large as well, unless the other factor is zero. -/
theorem min_mul_min_right (m n limit : Nat) : min (m * min n limit) limit = min (m * n) limit := by
  rcases Nat.le_total n limit with hfit | hcap
  · rw [Nat.min_eq_left hfit]
  · rw [Nat.min_eq_right hcap]
    rcases Nat.eq_zero_or_pos m with rfl | hm
    · simp
    · have hcapped : limit ≤ m * limit := Nat.le_mul_of_pos_left limit hm
      have hwhole : m * limit ≤ m * n := Nat.mul_le_mul_left m hcap
      omega

/-- Saturation commutes with products. -/
theorem mul_ofNat (m n : Nat) : mul (ofNat m) (ofNat n) = ofNat (m * n) := by
  have hright := min_mul_min_right (min m (UInt64.size - 1)) n (UInt64.size - 1)
  have hleft := min_mul_min_right n m (UInt64.size - 1)
  rw [mul, toNat_ofNat, toNat_ofNat, ofNat, hright, Nat.mul_comm, hleft, Nat.mul_comm, ofNat]

/-- A power that is squared step by step saturates if and only if the power itself has no room. -/
theorem pow_eq (a : UInt64) (n : Nat) : pow a n = ofNat (Nat.pow a.toNat n) := by
  fun_induction pow a n with
  | case1 => rfl
  | case2 n _ root heven ih =>
    have hroot : root = ofNat (Nat.pow a.toNat (n / 2)) := ih
    have hn : n = n / 2 + n / 2 := by omega
    calc mul root root
        = ofNat (Nat.pow a.toNat (n / 2) * Nat.pow a.toNat (n / 2)) := by rw [hroot, mul_ofNat]
      _ = ofNat (Nat.pow a.toNat (n / 2 + n / 2)) := congrArg ofNat (Nat.pow_add _ _ _).symm
      _ = ofNat (Nat.pow a.toNat n) := by rw [← hn]
  | case3 n _ root hodd ih =>
    have hroot : root = ofNat (Nat.pow a.toNat (n / 2)) := ih
    have hn : n = n / 2 + n / 2 + 1 := by omega
    have hsquare : mul root root = ofNat (Nat.pow a.toNat (n / 2 + n / 2)) := by
      rw [hroot, mul_ofNat]
      exact congrArg ofNat (Nat.pow_add _ _ _).symm
    calc mul (mul root root) a
        = mul (ofNat (Nat.pow a.toNat (n / 2 + n / 2))) (ofNat a.toNat) := by
          rw [hsquare, ofNat_toNat]
      _ = ofNat (Nat.pow a.toNat (n / 2 + n / 2) * a.toNat) := mul_ofNat _ _
      _ = ofNat (Nat.pow a.toNat (n / 2 + n / 2 + 1)) := rfl
      _ = ofNat (Nat.pow a.toNat n) := by rw [← hn]

end ClusterBatch.Saturating
