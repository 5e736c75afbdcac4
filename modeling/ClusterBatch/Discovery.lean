import ClusterBatch.Exchange
import ClusterBatch.Topology.SlotsReply

/-!
# Discovery

A newer topology is found by asking nodes which node serves which slots, one after the other, until
one of them answers with a topology that has shards. It is published at once. A node that fails to
answer is not asked again in the same round; whole rounds can be repeated with waits in between.

Decisions about routing are made against the current topology. Where that has a gap, a newer one is
found and the whole decision is made once more.
-/

namespace ClusterBatch

namespace Discovery

variable {σ : Type} [Network σ]

def parcel (node : NodeAddress) : Parcel := ⟨node, Request.clusterSlots.encode, 1⟩

def readAnswer (node : NodeAddress) :
    Except ExchangeError (List Reply) → Except QueryFailure Topology
  | .error cause => .error (.exchange cause)
  | .ok replies =>
    let reply := replies.headD .null
    match reply.errorMessage? with
    | some line => .error (.rejected line)
    | none =>
      match Topology.ofReply (some node.host) reply with
      | .error fault => .error (.malformed fault)
      | .ok topology => if topology.isEmpty then .error .noRanges else .ok topology

def query (limit : Option Nat) (node : NodeAddress) : Activity σ (Except QueryFailure Topology) :=
  readAnswer node <$> (parcel node).attempt limit

/-- Asks nodes in turn up to the first one that provides a topology. If none does, returns why. -/
def queryAll (limit : Option Nat) :
    List NodeAddress → Activity σ (Except (List (NodeAddress × QueryFailure)) Topology)
  | [] => pure (.error [])
  | node :: rest => do
    match ← query limit node with
    | .ok topology => pure (.ok topology)
    | .error failure =>
      match ← queryAll limit rest with
      | .ok topology => pure (.ok topology)
      | .error failures => pure (.error ((node, failure) :: failures))

def refreshFrom (nodes : List NodeAddress) : Call σ Topology := do
  if nodes.isEmpty then throw (.discovery .noSeeds)
  let limit := (← get).directory.requestTimeout
  let topology ← ExceptT.adapt (fun failures => .discovery (.noUsableSeed failures))
    (ExceptT.mk (queryAll limit nodes))
  (Session.publish topology : Activity σ Topology)

def refresh : Call σ Topology := do refreshFrom (← get).directory.candidates

/-- Finds and publishes a topology, in as many further rounds as allowed. -/
def refreshRounds (retries : Nat) (backoff : Backoff) : Nat → Call σ Topology
  | 0 => refresh
  | left + 1 =>
    tryCatch refresh fun _ => do
      (Session.pause backoff (retries - (left + 1)) : Activity σ Unit)
      refreshRounds retries backoff left

/-- Finds and publishes a topology; a round that fails is repeated up to `retries` times. -/
def refreshWithRetry (retries : Nat) (backoff : Backoff) : Call σ Topology :=
  refreshRounds retries backoff retries

/-- Finds and publishes a topology if that can be done in one round. If not, the current one stays,
and that is no failure. -/
def tryRefresh : Call σ Unit := tryCatch (discard refresh) fun _ => pure ()

/-- Finds and publishes a topology, as persistently as the settings say. -/
def refreshFor (settings : Settings) : Call σ Topology :=
  refreshWithRetry settings.refreshRetries.toNat settings.backoff

/-- The current topology, which is found first if there is none yet. -/
def topology (settings : Settings) : Call σ Topology := do
  let current := (← get).directory.current
  if current.isEmpty then refreshFor settings else pure current

/-- Makes a decision about routing against the current topology. If that has a gap, the decision is
made once more, against a newer one. -/
def routed {α : Type} (settings : Settings) (decision : Topology → Routing α) : Call σ α := do
  let current ← topology settings
  tryCatch (Session.routing (decision current)) fun
    | .topologyGap _ => do Session.routing (decision (← refreshFor settings))
    | cause => throw cause

end Discovery

end ClusterBatch
