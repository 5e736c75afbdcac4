import ClusterBatch.Bytes
import ClusterBatch.Error

/-!
# Networks

A network carries frames to nodes and brings back what they answer. What a node answers may depend
on the time and on all that was sent before, which is all that is known about it: whatever holds
for every network holds whatever the nodes do.

Time is counted in milliseconds. Only waiting takes time.
-/

namespace ClusterBatch

/-- A frame that is sent to a node. -/
structure Sending where
  time : Nat
  node : NodeAddress
  frame : Bytes
  deriving DecidableEq, Repr, Inhabited

/-- What comes back for a frame, and after how long. -/
structure Arrival where
  delay : Nat := 0
  result : Except ConnectionError Bytes

namespace Arrival

/-- What a sender sees who does not wait longer than the limit. What arrives just at the limit is
still seen. -/
def within (limit : Option Nat) (arrival : Arrival) : Arrival :=
  match limit with
  | none => arrival
  | some limit =>
    if arrival.delay ≤ limit then arrival else ⟨limit, .error (.noReply limit)⟩

end Arrival

/-- A frame for one node and the number of replies it asks for. -/
structure Parcel where
  node : NodeAddress
  frame : Bytes
  count : Nat
  deriving DecidableEq, Repr

/-- A parcel that has been sent, and what its sender saw come back. -/
structure Transmission where
  time : Nat
  parcel : Parcel
  arrival : Arrival

namespace Transmission

def node (transmission : Transmission) : NodeAddress := transmission.parcel.node

def sending (transmission : Transmission) : Sending :=
  ⟨transmission.time, transmission.node, transmission.parcel.frame⟩

end Transmission

/-- Nodes in states `σ` that frames can be sent to. -/
class Network (σ : Type) where
  send : Sending → σ → Arrival × σ

end ClusterBatch
