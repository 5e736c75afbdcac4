import ClusterBatch.Batch.Basic
import ClusterBatch.Pipeline
import ClusterBatch.Transaction

/-!
# Clients

A client runs batches, either on a single node or on a cluster. The outcomes of a batch are as many
as its commands and in their order; whatever concerns the whole batch is an error instead.
-/

namespace ClusterBatch

/-- Where the batches of a client are run. -/
inductive Deployment where
  | standalone (node : NodeAddress)
  | cluster
  deriving DecidableEq, Repr, Inhabited

structure Client where
  settings : Settings
  deployment : Deployment
  deriving Inhabited

namespace Client

/-- The client of a single node, the first one that the settings name. -/
def standalone (settings : Settings) : Except Error Client :=
  match settings.addresses with
  | [] => .error (.discovery .noAddress)
  | node :: _ => .ok ⟨settings, .standalone node⟩

def cluster (settings : Settings) : Client := ⟨settings, .cluster⟩

def isCluster (client : Client) : Bool := client.deployment = .cluster

def directory (client : Client) : Directory where
  seeds := client.settings.addresses
  requestTimeout := client.settings.replyLimit

def session {σ : Type} (client : Client) (nodes : σ) (draws jitter : Draws) : Session σ where
  nodes := nodes
  directory := client.directory
  router := { policy := client.settings.readPolicy, draws := draws }
  jitter := jitter

variable {σ : Type} [Network σ]

def refreshTopology (client : Client) : Call σ Topology :=
  match client.deployment with
  | .standalone _ => throw (.discovery .standalone)
  | .cluster => Discovery.refreshFor client.settings

/-- Runs a batch. The hint says where commands without keys go. -/
def execute (client : Client) (batch : Batch) (hint : Option Hint) : Call σ (List Outcome) :=
  if batch.commands.isEmpty then pure []
  else
    match client.deployment, batch.atomic with
    | .standalone node, false => Pipeline.onNode client.settings node batch.commands
    | .standalone node, true => Transaction.onNode client.settings node batch.commands
    | .cluster, false => Pipeline.onCluster client.settings hint batch.commands
    | .cluster, true => Transaction.onCluster client.settings hint batch.commands

end Client

end ClusterBatch
