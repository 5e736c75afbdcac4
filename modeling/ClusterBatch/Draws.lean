/-!
# Random draws

Random choices are made from a stream of numbers that is fixed beforehand, so that whatever
depends on them is still a function. The stream is arbitrary: what holds for every stream holds
whatever the choices are.
-/

namespace ClusterBatch

/-- A stream of numbers and how many of them have been used. -/
structure Draws where
  source : Nat → Nat
  taken : Nat := 0

namespace Draws

instance : Inhabited Draws := ⟨{ source := id }⟩

/-- A number below a positive `bound`, and the draws that remain. -/
def below (draws : Draws) (bound : Nat) : Nat × Draws :=
  (draws.source draws.taken % bound, { draws with taken := draws.taken + 1 })

/-- A number from `low` to `high`, which must not be below `low`, and the draws that remain. -/
def between (draws : Draws) (low high : Nat) : Nat × Draws :=
  let (offset, draws) := draws.below (high - low + 1)
  (low + offset, draws)

/-- The draws that count upwards, so that choices of equally many come in turn. -/
def counting : Draws := { source := id }

/-- Draws without a visible pattern: each number is its place with the bits mixed. -/
def mixed : Draws where
  source n :=
    let x := UInt64.ofNat (n + 1) * 0x9e3779b97f4a7c15
    let x := (x ^^^ (x >>> 30)) * 0xbf58476d1ce4e5b9
    let x := (x ^^^ (x >>> 27)) * 0x94d049bb133111eb
    (x ^^^ (x >>> 31)).toNat

theorem below_lt (draws : Draws) {bound : Nat} (h : 0 < bound) : (draws.below bound).1 < bound :=
  Nat.mod_lt _ h

end Draws

end ClusterBatch
