import ClusterBatch.Reply.Basic
import ClusterBatch.Topology.Basic

/-!
# Topologies from replies

A node that is asked for the slots of its cluster answers with one entry per range: the first and
the last slot, the primary and the replicas, each node being a host and a port that more may
follow. A node may leave its own host empty; then the host under which it was asked stands in.

A reply of any other form, or with ranges that overlap, gives no topology.
-/

namespace ClusterBatch

/-- What is wrong with a reply that should describe the slots. -/
inductive SlotsFault where
  | notAList
  | entryNotAList
  | shortEntry
  | slotOutOfRange
  | reversedRange (start stop : Nat)
  | shortNode
  | hostNotText
  | emptyHost
  | invalidPort
  | overlap (first second : Shard)
  deriving DecidableEq, Repr

namespace SlotsFault

def message : SlotsFault → String
  | notAList => "reply is not an array"
  | entryNotAList => "slot entry is not an array"
  | shortEntry => "slot entry needs start, end and primary"
  | slotOutOfRange => "slot is not in range"
  | reversedRange start stop => s!"slot range {start}-{stop} is reversed"
  | shortNode => "node entry needs host and port"
  | hostNotText => "node host is not text"
  | emptyHost => "node host is empty"
  | invalidPort => "node port is not a valid port"
  | overlap first second =>
    s!"slot ranges {first.start}-{first.stop} and {second.start}-{second.stop} overlap"

end SlotsFault

namespace Topology

/-- The number that a reply is, or that its text is the numeral of, if it is below `bound`. -/
def numberBelow? (bound : Nat) (reply : Reply) : Option Nat :=
  let number := match reply with
    | .integer value => some value
    | .bulk text => Numeral.int64? text.chars
    | .simple text => Numeral.int64? text.chars
    | _ => none
  number.bind fun n => if 0 ≤ n.toInt ∧ n.toInt < bound then some n.toInt.toNat else none

def readSlot (reply : Reply) : Except SlotsFault Nat :=
  (numberBelow? Slot.count reply).elim (.error .slotOutOfRange) .ok

/-- The host that a reply is, or the one that stands in for it. -/
def readHost (reporter : Option String) (reply : Reply) : Except SlotsFault String :=
  match reply.payload?.bind Utf8.decode? with
  | none => .error .hostNotText
  | some host =>
    if host.isEmpty then reporter.elim (.error .emptyHost) .ok else .ok host

def readNode (reporter : Option String) (reply : Reply) : Except SlotsFault NodeAddress :=
  match reply.items? with
  | some (host :: port :: _) => do
    let host ← readHost reporter host
    match numberBelow? UInt16.size port with
    | some port => .ok ⟨host, UInt16.ofNat port⟩
    | none => .error .invalidPort
  | _ => .error .shortNode

def readShard (reporter : Option String) (reply : Reply) : Except SlotsFault Shard :=
  match reply.items? with
  | none => .error .entryNotAList
  | some (start :: stop :: primary :: replicas) => do
    let start ← readSlot start
    let stop ← readSlot stop
    if stop < start then .error (.reversedRange start stop)
    let primary ← readNode reporter primary
    let replicas ← replicas.mapM (readNode reporter)
    .ok ⟨start, stop, primary, replicas⟩
  | some _ => .error .shortEntry

/-- The first two neighbours in a list of shards that share a slot, the list being sorted. -/
def firstOverlap? : List Shard → Option (Shard × Shard)
  | first :: second :: rest =>
    if second.start ≤ first.stop then some (first, second) else firstOverlap? (second :: rest)
  | _ => none

/-- The topology of the given shards, if no two of them share a slot. -/
def ofShards (shards : List Shard) : Except SlotsFault Topology :=
  let sorted := shards.mergeSort fun a b => a.start ≤ b.start
  match firstOverlap? sorted with
  | some (first, second) => .error (.overlap first second)
  | none => .ok { shards := sorted }

/-- The topology that a reply describes. A host left empty is replaced by that of the reporter, if
there is one. -/
def ofReply (reporter : Option String) (reply : Reply) : Except SlotsFault Topology :=
  match reply.items? with
  | none => .error .notAList
  | some entries => do ofShards (← entries.mapM (readShard reporter))

end Topology

end ClusterBatch
