import ClusterBatch.Error

/-!
# Topologies as callers get them

Callers who want the topology in a reply or the shard that serves a slot are told what is wrong
in terms of the whole client: a reply that describes no topology fails discovery, and a slot that
no shard serves is a gap.
-/

namespace ClusterBatch.Topology

/-- The topology that a reply describes. No host may be left empty. -/
def ofSlotsReply (reply : Reply) : Except Error Topology :=
  (ofReply none reply).mapError fun fault => .discovery (.malformed fault)

def lookup (topology : Topology) (slot : Nat) : Except Error Shard :=
  match topology.owner? slot with
  | some shard => .ok shard
  | none => .error (.topologyGap slot)

end ClusterBatch.Topology
