import ClusterBatch.Distinct
import ClusterBatch.NodeAddress
import ClusterBatch.Slot.Basic

/-!
# Topologies

A topology is a snapshot of which nodes serve which slots. Each shard serves a contiguous range of
slots with one primary, which accepts writes, and any number of replicas. The shards of a topology
are sorted and do not overlap; a slot outside all of them is a gap.
-/

namespace ClusterBatch

/-- A range of slots, both ends included, and the nodes that serve it. -/
structure Shard where
  start : Nat
  stop : Nat
  primary : NodeAddress
  replicas : List NodeAddress
  deriving DecidableEq, Repr, Inhabited

namespace Shard

def contains (shard : Shard) (slot : Nat) : Bool := shard.start ≤ slot && slot ≤ shard.stop

end Shard

/-- A snapshot of which nodes serve which slots. -/
structure Topology where
  /-- How many snapshots have been published up to this one; zero for none. -/
  epoch : Nat := 0
  shards : List Shard := []
  deriving DecidableEq, Repr, Inhabited

namespace Topology

def empty : Topology := {}

def isEmpty (topology : Topology) : Bool := topology.shards.isEmpty

/-- The shard that serves a slot. It is the last one that starts at the slot or before, unless
that one ends before the slot. -/
def owner? (topology : Topology) (slot : Nat) : Option Shard :=
  (topology.shards.takeWhile (·.start ≤ slot)).getLast?.filter (·.contains slot)

/-- The primaries, each listed once, in the order of their first slots. -/
def primaries (topology : Topology) : List NodeAddress :=
  distinct (topology.shards.map Shard.primary)

/-- The primaries and then the nodes that are only replicas, each listed once. -/
def nodes (topology : Topology) : List NodeAddress :=
  distinct (topology.shards.map Shard.primary ++ topology.shards.flatMap Shard.replicas)

def containsNode (topology : Topology) (node : NodeAddress) : Bool :=
  topology.shards.any fun shard => shard.primary = node || node ∈ shard.replicas

/-- Whether shards follow each other without a gap, from the given slot to the last one. -/
def coverFrom : Nat → List Shard → Bool
  | next, [] => next = Slot.count
  | next, shard :: rest => shard.start = next && coverFrom (shard.stop + 1) rest

def isFullyCovered (topology : Topology) : Bool := coverFrom 0 topology.shards

end Topology

end ClusterBatch
