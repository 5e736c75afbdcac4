import ClusterBatch.Text.Quoted
import ClusterBatch.Topology.Basic

/-!
# Directories

A directory holds the current topology of a cluster. A topology is published as a whole and never
changes afterwards; its epoch says how many have been published up to it.

Main statement: `Directory.epoch_publish`, each publication takes the epoch one further.
-/

namespace ClusterBatch

/-- The current topology and what is needed to find a newer one. -/
structure Directory where
  /-- The nodes to ask when no others are known. -/
  seeds : List NodeAddress := []
  /-- How many milliseconds a node may take to answer; without a limit, any number. -/
  requestTimeout : Option Nat := none
  current : Topology := .empty
  deriving DecidableEq, Repr, Inhabited

namespace Directory

/-- A directory with a newer topology, which gets the next epoch. -/
def publish (topology : Topology) (directory : Directory) : Directory :=
  { directory with current := { topology with epoch := directory.current.epoch + 1 } }

/-- The nodes to ask for a newer topology: those of the current one, then the seeds. -/
def candidates (directory : Directory) : List NodeAddress :=
  distinct (directory.current.nodes ++ directory.seeds)

def nodeDiagnostic (node : NodeAddress) : String :=
  "NodeAddress \x7b host: " ++ Text.quote node.host ++ ", port: " ++ toString node.port.toNat
    ++ " \x7d"

def diagnostic (directory : Directory) : String :=
  "TopologyDirectory \x7b seeds: [" ++ ", ".intercalate (directory.seeds.map nodeDiagnostic)
    ++ "], epoch: " ++ toString directory.current.epoch ++ " \x7d"

theorem epoch_publish (topology : Topology) (directory : Directory) :
    (directory.publish topology).current.epoch = directory.current.epoch + 1 := rfl

theorem shards_publish (topology : Topology) (directory : Directory) :
    (directory.publish topology).current.shards = topology.shards := rfl

end Directory

end ClusterBatch
