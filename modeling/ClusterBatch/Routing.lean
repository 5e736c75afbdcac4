import ClusterBatch.Command.Keys
import ClusterBatch.Draws
import ClusterBatch.Redirect
import ClusterBatch.Settings.Basic
import ClusterBatch.Topology.Lookup

/-!
# Routing

Where a command goes is decided against one topology. A command with keys goes to a node that
serves the slot of the first one: the primary, or for a command that only reads one of the
replicas if the policy says so. A command without keys goes where the caller's hint says, to a
random primary by default.

A router carries what such decisions change: the place in the rotation of replicas, which is
common to all shards, and the draws for random choices.
-/

namespace ClusterBatch

/-- Where the caller wants commands without keys to go. -/
inductive Hint where
  | random
  | allPrimaries
  | allNodes
  /-- To a node that serves the slot of this key. -/
  | slotKey (key : Bytes)
  | address (node : NodeAddress)
  deriving DecidableEq, Repr

inductive Target where
  /-- The node chosen for a slot. -/
  | serving (node : NodeAddress)
  /-- A random primary, chosen when the target is resolved. -/
  | random
  | allPrimaries
  | allNodes
  /-- A node that the caller or a redirect names. -/
  | named (node : NodeAddress)
  deriving DecidableEq, Repr

namespace Target

/-- Whether a command goes to several nodes, whose replies are collected. -/
def isMultiNode : Target → Bool
  | .allPrimaries => true
  | .allNodes => true
  | _ => false

end Target

/-- What the choice of nodes depends on and changes. -/
structure Router where
  policy : ReadPolicy
  /-- How many choices have been made in rotation. -/
  cursor : UInt64 := 0
  draws : Draws := .counting
  deriving Inhabited

/-- A decision that may change the router and may fail. -/
abbrev Routing (α : Type) := ExceptT Error (StateM Router) α

namespace Router

/-- The next place in a rotation of `count` places. -/
def rotate (count : Nat) (router : Router) : Nat × Router :=
  (router.cursor.toNat % count, { router with cursor := router.cursor + 1 })

def draw (count : Nat) (router : Router) : Nat × Router :=
  let (n, draws) := router.draws.below count
  (n, { router with draws := draws })

/-- The node of a shard that serves a command. -/
def select (shard : Shard) (readOnly : Bool) (router : Router) : NodeAddress × Router :=
  if !readOnly || shard.replicas.isEmpty then (shard.primary, router)
  else match router.policy with
    | .primary => (shard.primary, router)
    | .preferReplica =>
      let (i, router) := router.rotate shard.replicas.length
      (shard.replicas.getD i shard.primary, router)
    | .randomReplica =>
      let (i, router) := router.draw shard.replicas.length
      (shard.replicas.getD i shard.primary, router)

def slotTarget (topology : Topology) (slot : Nat) (readOnly : Bool) : Routing Target := do
  let shard ← topology.lookup slot
  .serving <$> (modifyGet (select shard readOnly) : StateM Router NodeAddress)

/-- The target of a command. A hint is of no concern to a command with keys. -/
def route (topology : Topology) (command : Command) (hint : Option Hint) : Routing Target :=
  match command.firstKey? with
  | some key => slotTarget topology (Slot.ofKey key) command.isReadOnly
  | none =>
    match hint with
    | none => pure .random
    | some .random => pure .random
    | some .allPrimaries => pure .allPrimaries
    | some .allNodes => pure .allNodes
    | some (.slotKey key) => slotTarget topology (Slot.ofKey key) command.isReadOnly
    | some (.address node) => pure (.named node)

def randomPrimary (topology : Topology) : Routing NodeAddress :=
  match topology.primaries with
  | [] => throw (.discovery .noPrimaries)
  | first :: rest => do
    let i ← (modifyGet (draw (rest.length + 1)) : StateM Router Nat)
    pure ((first :: rest).getD i first)

/-- The nodes of a target, at least one. -/
def resolve (topology : Topology) : Target → Routing (List NodeAddress)
  | .serving node => pure [node]
  | .named node => pure [node]
  | .random => do pure [← randomPrimary topology]
  | .allPrimaries => ofNodes topology.primaries
  | .allNodes => ofNodes topology.nodes
where
  /-- The given nodes, at least one. -/
  ofNodes (nodes : List NodeAddress) : Routing (List NodeAddress) :=
    if nodes.isEmpty then throw (.discovery .noNodes) else pure nodes

end Router

namespace Redirect

/-- The node that a redirect names. -/
def node (redirect : Redirect) : Except Error NodeAddress :=
  match NodeAddress.ofText redirect.address with
  | .ok node => .ok node
  | .error _ => .error (.protocol (.unusableRedirect redirect.address))

end Redirect

end ClusterBatch
