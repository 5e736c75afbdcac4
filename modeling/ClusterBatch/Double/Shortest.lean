import ClusterBatch.Double.Decimal

/-!
# Shortest decimals

A finite double is written with the fewest digits that read back as that double; of the decimals
with that many digits, the nearest to the value is taken, the larger one if two are equally near.

For each number of digits in turn the two neighbours of the value on that decimal grid are read
back. The written decimal therefore reads back by construction.

Main statement: `Double.magnitude_shortest`.
-/

namespace ClusterBatch

namespace Decimal

/-- The same number without zeros at the end of its digits. -/
def stripped (d : Decimal) : Decimal :=
  if d.digits ≠ 0 ∧ d.digits % 10 = 0 then stripped ⟨d.digits / 10, d.exponent + 1⟩ else d
termination_by d.digits
decreasing_by exact Nat.div_lt_self (by omega) (by decide)

end Decimal

namespace Double

/-- The power of ten of the first significant digit of a positive magnitude. Scaled up by 340
places every positive double has digits before the point, and their number gives the power. -/
def leadingPlace (m : Nat) : Int :=
  (Nat.toDigits 10 ((units m * Nat.pow 10 340) >>> fineness)).length - 341

/-- The one of two decimals that reads back as `m`; of two that do, the one that is nearer. -/
def readingBack? (m : Fin 0x7ff0000000000001) (lower upper : Decimal) (lowerNearer : Bool) :
    Option Decimal :=
  if lower.magnitude = m then
    if upper.magnitude = m ∧ !lowerNearer then some upper else some lower
  else if upper.magnitude = m then some upper
  else none

/-- The decimal of `count` digits that stands for a positive magnitude, if one reads back. -/
def ofCount? (m : Fin 0x7ff0000000000001) (count : Nat) : Option Decimal :=
  let place := leadingPlace m + 1 - count
  let num := units m * Nat.pow 10 (-place).toNat
  let den := Nat.pow 10 place.toNat <<< fineness
  readingBack? m (Decimal.stripped ⟨num / den, place⟩) (Decimal.stripped ⟨num / den + 1, place⟩)
    (2 * (num % den) < den)

def exactDecimal (m : Nat) : Decimal := ⟨units m * Nat.pow 5 fineness, -fineness⟩

/-- The decimal that a finite magnitude is written as. Seventeen digits always suffice; were it
not so, all of them would be written. -/
def shortest (m : Fin 0x7ff0000000000001) : Decimal :=
  if m.val = 0 then ⟨0, 0⟩
  else ((List.range 17).findSome? fun i => ofCount? m (i + 1)).getD (exactDecimal m)

theorem magnitude_of_readingBack? {m : Fin 0x7ff0000000000001} {lower upper d : Decimal}
    {lowerNearer : Bool} (h : readingBack? m lower upper lowerNearer = some d) :
    d.magnitude = m := by
  unfold readingBack? at h
  split at h
  · rename_i h₁
    split at h
    · rename_i h₂
      exact Option.some.inj h ▸ h₂.1
    · exact Option.some.inj h ▸ h₁
  · split at h
    · rename_i h₂
      exact Option.some.inj h ▸ h₂
    · cases h

theorem units_pos {m : Nat} (h : m ≠ 0) : 0 < units m := by
  have : 0 < m - scale m * 0x10000000000000 := by unfold scale; omega
  rw [units, Nat.shiftLeft_eq]
  exact Nat.mul_pos this (Nat.two_pow_pos _)

theorem mul_pow_pos {u : Nat} (hu : 0 < u) (n : Nat) : 0 < u * Nat.pow 5 n :=
  Nat.mul_pos hu (Nat.pow_pos (by decide))

theorem le_log2_mul_pow {u : Nat} (hu : 0 < u) (n : Nat) : n ≤ (u * Nat.pow 5 n).log2 := by
  rw [Nat.le_log2 (Nat.ne_of_gt (mul_pow_pos hu n))]
  exact Nat.le_trans (Nat.pow_le_pow_left (by decide : 2 ≤ 5) _) (Nat.le_mul_of_pos_left _ hu)

theorem magnitude_exactDecimal (m : Fin 0x7ff0000000000001) (h : m.val ≠ 0) :
    (exactDecimal m).magnitude = m := by
  have hu := units_pos h
  have hpos := mul_pow_pos hu fineness
  have hlog := le_log2_mul_pow hu fineness
  apply Decimal.magnitude_eq_of_units
  · exact Nat.ne_of_gt hpos
  · simp only [exactDecimal]; omega
  · simp only [exactDecimal]; omega
  · have h₁ : (-(fineness : Int)).toNat = 0 := by omega
    have h₂ : (- -(fineness : Int)).toNat = fineness := by omega
    simp only [exactDecimal, h₁, h₂, Nat.pow_eq, Nat.shiftLeft_eq]
    rw [Nat.pow_zero, Nat.mul_one, Nat.mul_assoc, ← Nat.mul_pow]

/-- What a finite magnitude is written as reads back as that magnitude. -/
theorem magnitude_shortest (m : Fin 0x7ff0000000000001) : (shortest m).magnitude = m := by
  unfold shortest
  split
  · rename_i h
    exact Fin.ext (by simpa [Decimal.magnitude] using h.symm)
  · rename_i h
    cases hf : (List.range 17).findSome? fun i => ofCount? m (i + 1) with
    | none => exact magnitude_exactDecimal m h
    | some d =>
      obtain ⟨_, _, hd⟩ := List.exists_of_findSome?_eq_some hf
      exact magnitude_of_readingBack? hd

end Double

end ClusterBatch
