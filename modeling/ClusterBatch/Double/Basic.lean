/-!
# Doubles

A double is the number that a binary64 word stands for; all words that stand for no number count
as one. The magnitude of a number is its place in the ascending list of the non-negative doubles,
which is also the word without its sign bit: zero is first and infinity last, and the next double
is one place on.

Main statement: `Double.ofBits_toBits`, the word of a double names that double.
-/

namespace ClusterBatch

/-- A binary64 floating-point value, all NaNs being one. -/
inductive Double where
  | nan
  | number (negative : Bool) (magnitude : Fin 0x7ff0000000000001)
  deriving DecidableEq, Repr, Inhabited

namespace Double

/-- The magnitude of infinity, the last one. -/
def infinite : Fin 0x7ff0000000000001 := ⟨0x7ff0000000000000, by decide⟩

def zero (negative : Bool) : Double := .number negative ⟨0, by decide⟩

def infinity (negative : Bool) : Double := .number negative infinite

def ofBits (bits : UInt64) : Double :=
  let n := bits.toNat % 0x8000000000000000
  if h : n < 0x7ff0000000000001 then .number (decide (0x8000000000000000 ≤ bits.toNat)) ⟨n, h⟩
  else .nan

/-- A word that stands for a double. -/
def toBits : Double → UInt64
  | .nan => UInt64.ofNat 0x7ff8000000000000
  | .number negative m => UInt64.ofNat ((if negative then 0x8000000000000000 else 0) + m.val)

def isFinite : Double → Bool
  | .nan => false
  | .number _ m => m ≠ infinite

/-- Equality of numbers: NaN equals nothing, and the two zeros are equal. -/
def same : Double → Double → Bool
  | .number s m, .number t n => m = n && (s = t || m.val = 0)
  | _, _ => false

/-- The smallest positive double is two to the power of minus this. -/
def fineness : Nat := 1074

/-- How many times the place of a magnitude has been doubled to give its value. -/
def scale (m : Nat) : Nat := m / 0x10000000000000 - 1

/-- The value of a magnitude, in units of the smallest positive double. -/
def units (m : Nat) : Nat := (m - scale m * 0x10000000000000) <<< scale m

@[simp] theorem ofBits_toBits (d : Double) : ofBits d.toBits = d := by
  cases d with
  | nan => decide
  | number negative m =>
    have hm := m.isLt
    cases negative
    · have h : (UInt64.ofNat (0 + m.val)).toNat = m.val := by
        rw [UInt64.toNat_ofNat']; omega
      simp only [toBits, ofBits, Bool.false_eq_true, if_false, h]
      rw [dif_pos (by omega)]
      congr 1
      · simp; omega
      · exact Fin.ext (by simp; omega)
    · have h : (UInt64.ofNat (0x8000000000000000 + m.val)).toNat = 0x8000000000000000 + m.val := by
        rw [UInt64.toNat_ofNat']; omega
      simp only [toBits, ofBits, if_true, h]
      rw [dif_pos (by omega)]
      congr 1
      · simp
      · exact Fin.ext (by simp; omega)

end Double

end ClusterBatch
