import ClusterBatch.Draws
import ClusterBatch.Saturating

/-!
# Backoff

How long to wait before something is tried again. The wait grows with a power of a base up to a
limit, and is then shifted at random by a share of itself, so that clients that failed together do
not come back together. The limit applies before the shift. All of it is computed in words of 64
bits; the power and its product with the factor may be too large for these and saturate.
-/

namespace ClusterBatch

/-- How often and after which waits to try again. -/
structure Backoff where
  /-- How often to try again. -/
  retries : UInt32 := 3
  /-- The first wait, in milliseconds. -/
  factor : UInt32 := 10
  /-- What the wait is multiplied with from one attempt to the next. -/
  exponentBase : UInt32 := 2
  /-- By how many percent of itself the wait is shifted at most. -/
  jitterPercent : UInt32 := 20
  deriving DecidableEq, Repr, Inhabited

namespace Backoff

def never : Backoff := { retries := 0 }

/-- The longest wait before the shift, in milliseconds. -/
def limit : UInt64 := 60000

/-- The wait before the shift. -/
def base (backoff : Backoff) (attempt : Nat) : UInt64 :=
  min (Saturating.mul backoff.factor.toUInt64
    (Saturating.pow backoff.exponentBase.toUInt64 attempt)) limit

/-- By how many percent the wait is shifted at most; more than the whole of it makes no sense. -/
def percent (backoff : Backoff) : UInt64 := (min backoff.jitterPercent 100).toUInt64

def jitter (backoff : Backoff) (attempt : Nat) : UInt64 :=
  backoff.base attempt * backoff.percent / 100

def shortest (backoff : Backoff) (attempt : Nat) : UInt64 :=
  backoff.base attempt - backoff.jitter attempt

def longest (backoff : Backoff) (attempt : Nat) : UInt64 :=
  backoff.base attempt + backoff.jitter attempt

/-- The wait before attempt number `attempt` is repeated, counted from zero, and the draws that
remain. A wait that cannot be shifted uses no draw. -/
def delay (backoff : Backoff) (attempt : Nat) (draws : Draws) : Nat × Draws :=
  if backoff.jitter attempt = 0 then ((backoff.base attempt).toNat, draws)
  else draws.between (backoff.shortest attempt).toNat (backoff.longest attempt).toNat

end Backoff

end ClusterBatch
