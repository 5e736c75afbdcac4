import ClusterBatch.Backoff
import Mathlib

/-!
# Delays

The words that a delay is computed in are wide enough: no step of the computation wraps around, so
that it comes to what the same formula gives for numbers of any size. A draw can shift the wait to
every number between the shortest and the longest delay and to no other. Since the wait is limited
before it is shifted, the limit does not hold for the delay itself.

Main statements: `Backoff.delay_exact` and `Backoff.delay_le_limit_iff`.
-/

namespace ClusterBatch

/-- Draws from a range that is not empty are in it, and each of its numbers can be drawn. -/
theorem Draws.exists_between_eq_iff {low high n : Nat} (h : low ≤ high) :
    (∃ draws : Draws, (draws.between low high).1 = n) ↔ low ≤ n ∧ n ≤ high := by
  constructor
  · rintro ⟨draws, rfl⟩
    have hlt : (draws.below (high - low + 1)).1 < high - low + 1 :=
      draws.below_lt (Nat.succ_pos _)
    simp only [between]
    omega
  · rintro ⟨hlow, hhigh⟩
    refine ⟨{ source := fun _ => n - low }, ?_⟩
    have hmod : (n - low) % (high - low + 1) = n - low := Nat.mod_eq_of_lt (by omega)
    simp only [between, below, hmod]
    omega

namespace Backoff

section Words

variable (backoff : Backoff) (attempt : Nat)

/-- The wait before the shift is the factor times the power of the base, up to the limit. -/
theorem toNat_base : (backoff.base attempt).toNat =
    min (backoff.factor.toNat * backoff.exponentBase.toNat ^ attempt) limit.toNat := by
  have hfactor := Saturating.ofNat_toNat backoff.factor.toUInt64
  have hproduct := Saturating.mul_ofNat backoff.factor.toNat (backoff.exponentBase.toNat ^ attempt)
  have hlimit : limit.toNat ≤ UInt64.size - 1 := by decide
  rw [UInt32.toNat_toUInt64] at hfactor
  calc (backoff.base attempt).toNat
      = (min (Saturating.ofNat (backoff.factor.toNat * backoff.exponentBase.toNat ^ attempt))
          limit).toNat := by simp [base, Saturating.pow_eq, ← hproduct, hfactor]
    _ = min (backoff.factor.toNat * backoff.exponentBase.toNat ^ attempt) limit.toNat := by
      simp only [UInt64.toNat_min, Saturating.toNat_ofNat]
      omega

theorem toNat_base_le : (backoff.base attempt).toNat ≤ limit.toNat := by
  rw [toNat_base]
  exact Nat.min_le_right _ _

theorem toNat_percent : backoff.percent.toNat = min backoff.jitterPercent.toNat 100 := by
  simp [percent, UInt32.toNat_min]

theorem toNat_percent_le : backoff.percent.toNat ≤ 100 := by
  rw [toNat_percent]
  exact Nat.min_le_right _ _

theorem toNat_base_mul_percent : (backoff.base attempt * backoff.percent).toNat =
    (backoff.base attempt).toNat * backoff.percent.toNat := by
  have hle := Nat.mul_le_mul (backoff.toNat_base_le attempt) backoff.toNat_percent_le
  have hlimit : limit.toNat * 100 < 2 ^ 64 := by decide
  rw [UInt64.toNat_mul, Nat.mod_eq_of_lt (by omega)]

theorem toNat_jitter : (backoff.jitter attempt).toNat =
    (backoff.base attempt).toNat * backoff.percent.toNat / 100 := by
  rw [jitter, UInt64.toNat_div, toNat_base_mul_percent]
  rfl

/-- The shift is at most the whole wait. -/
theorem toNat_jitter_le : (backoff.jitter attempt).toNat ≤ (backoff.base attempt).toNat := by
  rw [toNat_jitter]
  exact Nat.div_le_of_le_mul (Nat.mul_comm 100 _ ▸ Nat.mul_le_mul_left _ backoff.toNat_percent_le)

theorem toNat_shortest : (backoff.shortest attempt).toNat =
    (backoff.base attempt).toNat - (backoff.jitter attempt).toNat :=
  UInt64.toNat_sub_of_le _ _ (UInt64.le_iff_toNat_le.2 (backoff.toNat_jitter_le attempt))

theorem toNat_longest : (backoff.longest attempt).toNat =
    (backoff.base attempt).toNat + (backoff.jitter attempt).toNat := by
  have hbase := backoff.toNat_base_le attempt
  have hjitter := backoff.toNat_jitter_le attempt
  have hlimit : 2 * limit.toNat < 2 ^ 64 := by decide
  rw [longest, UInt64.toNat_add, Nat.mod_eq_of_lt (by omega)]

theorem toNat_shortest_le_toNat_longest :
    (backoff.shortest attempt).toNat ≤ (backoff.longest attempt).toNat := by
  rw [toNat_shortest, toNat_longest]
  omega

/-- The delays that can be drawn are those from the shortest to the longest. If the wait cannot be
shifted, nothing is drawn and the two are the same. -/
theorem exists_delay_eq_iff {wait : Nat} :
    (∃ draws, (backoff.delay attempt draws).1 = wait) ↔
      (backoff.shortest attempt).toNat ≤ wait ∧ wait ≤ (backoff.longest attempt).toNat := by
  by_cases hjitter : backoff.jitter attempt = 0
  · have hzero : (backoff.jitter attempt).toNat = 0 := congrArg UInt64.toNat hjitter
    simp only [delay, if_pos hjitter, toNat_shortest, toNat_longest, hzero]
    constructor
    · rintro ⟨-, rfl⟩
      simp
    · rintro ⟨hlow, hhigh⟩
      exact ⟨default, by omega⟩
  · simp only [delay, if_neg hjitter]
    exact Draws.exists_between_eq_iff (backoff.toNat_shortest_le_toNat_longest attempt)

theorem base_le_base (hbase : 0 < backoff.exponentBase) {later : Nat} (hlater : attempt ≤ later) :
    backoff.base attempt ≤ backoff.base later := by
  have hpos : 0 < backoff.exponentBase.toNat := UInt32.lt_iff_toNat_lt.1 hbase
  rw [UInt64.le_iff_toNat_le, toNat_base, toNat_base]
  gcongr

end Words

/-- With `b` and `j` computed for numbers of any size, exactly the delays from `b - j` to `b + j`
can be drawn. No word that is computed on the way wraps around, and the range that is drawn from is
not empty. The wait before the shift does not shrink from one attempt to a later one unless the base
of the power is zero. -/
theorem delay_exact (backoff : Backoff) (attempt : Nat) :
    let b := min (backoff.factor.toNat * backoff.exponentBase.toNat ^ attempt) 60000
    let j := b * min backoff.jitterPercent.toNat 100 / 100
    Set.range (fun draws => (backoff.delay attempt draws).1) = Set.Icc (b - j) (b + j) ∧
      ((backoff.base attempt).toNat = b ∧
        (backoff.base attempt * backoff.percent).toNat =
          b * min backoff.jitterPercent.toNat 100 ∧
        (backoff.jitter attempt).toNat = j ∧ backoff.jitter attempt ≤ backoff.base attempt ∧
        (backoff.shortest attempt).toNat = b - j ∧ (backoff.longest attempt).toNat = b + j ∧
        backoff.shortest attempt ≤ backoff.longest attempt) ∧
      (0 < backoff.exponentBase → ∀ later, attempt ≤ later →
        backoff.base attempt ≤ backoff.base later) := by
  intro b j
  have hb : (backoff.base attempt).toNat = b := backoff.toNat_base attempt
  have hj : (backoff.jitter attempt).toNat = j := by rw [toNat_jitter, hb, toNat_percent]
  have hshortest := backoff.toNat_shortest attempt
  have hlongest := backoff.toNat_longest attempt
  rw [hb, hj] at hshortest hlongest
  refine ⟨?_, ⟨hb, ?_, hj, ?_, hshortest, hlongest, ?_⟩, ?_⟩
  · ext wait
    rw [Set.mem_range, exists_delay_eq_iff, hshortest, hlongest, Set.mem_Icc]
  · rw [toNat_base_mul_percent, hb, toNat_percent]
  · exact UInt64.le_iff_toNat_le.2 (backoff.toNat_jitter_le attempt)
  · exact UInt64.le_iff_toNat_le.2 (backoff.toNat_shortest_le_toNat_longest attempt)
  · exact fun hbase later => backoff.base_le_base attempt hbase

/-- Half of 63 is rounded down, and far later attempts wait no less. -/
theorem delay_exact_half :
    let backoff : Backoff := { factor := 7, exponentBase := 3, jitterPercent := 50 }
    (backoff.base 2).toNat = 63 ∧
      Set.range (fun draws => (backoff.delay 2 draws).1) = Set.Icc 32 94 ∧
      0 < backoff.exponentBase ∧ 2 ≤ 4294967295 ∧ backoff.base 2 ≤ backoff.base 4294967295 := by
  intro backoff
  obtain ⟨hrange, ⟨hbase, -⟩, hlater⟩ := delay_exact backoff 2
  have hb : min (backoff.factor.toNat * backoff.exponentBase.toNat ^ 2) 60000 = 63 := by decide
  have hj : 63 * min backoff.jitterPercent.toNat 100 / 100 = 31 := by decide
  rw [hb, hj] at hrange
  exact ⟨hbase, hrange, by decide, by decide, hlater (by decide) _ (by decide)⟩

/-- The limit holds before the shift. It holds for all delays that can be drawn if and only if it
holds for the wait together with its largest shift, which is a delay that can be drawn. Whatever is
drawn, the limit is exceeded by no more than the share of it that a wait is shifted by. -/
theorem delay_le_limit_iff (backoff : Backoff) (attempt : Nat) :
    backoff.base attempt ≤ limit ∧
      ((∀ draws, (backoff.delay attempt draws).1 ≤ limit.toNat) ↔
        (backoff.base attempt).toNat + (backoff.jitter attempt).toNat ≤ limit.toNat) ∧
      (∃ draws, (backoff.delay attempt draws).1 =
        (backoff.base attempt).toNat + (backoff.jitter attempt).toNat) ∧
      ∀ draws, (backoff.delay attempt draws).1 ≤
        limit.toNat + limit.toNat * min backoff.jitterPercent.toNat 100 / 100 := by
  have hlongest := backoff.toNat_longest attempt
  have hle (draws : Draws) : (backoff.delay attempt draws).1 ≤ (backoff.longest attempt).toNat :=
    ((backoff.exists_delay_eq_iff attempt).1 ⟨draws, rfl⟩).2
  have hdrawn : ∃ draws, (backoff.delay attempt draws).1 = (backoff.longest attempt).toNat :=
    (backoff.exists_delay_eq_iff attempt).2
      ⟨backoff.toNat_shortest_le_toNat_longest attempt, Nat.le_refl _⟩
  have hbase := UInt64.le_iff_toNat_le.2 (backoff.toNat_base_le attempt)
  refine ⟨hbase, ⟨fun h => ?_, fun h draws => ?_⟩, hlongest ▸ hdrawn, fun draws =>
    (hle draws).trans ?_⟩
  · obtain ⟨draws, hdraws⟩ := hdrawn
    rw [← hlongest, ← hdraws]
    exact h draws
  · exact (hle draws).trans (hlongest ▸ h)
  · have hle := UInt64.le_iff_toNat_le.1 hbase
    rw [hlongest, toNat_jitter, ← toNat_percent]
    gcongr

/-- A wait at the limit that is shifted by a hundredth of it. -/
theorem not_delay_le_limit : ¬∀ (backoff : Backoff) (attempt : Nat) (draws : Draws),
    (backoff.delay attempt draws).1 ≤ limit.toNat := by
  intro h
  let backoff : Backoff := { factor := 60000, exponentBase := 1, jitterPercent := 1 }
  have hdelay : (backoff.delay 0 { source := fun _ => 1200 }).1 = 60600 := by decide +kernel
  have hle := h backoff 0 { source := fun _ => 1200 }
  rw [hdelay] at hle
  exact absurd hle (by decide)

end Backoff

end ClusterBatch
