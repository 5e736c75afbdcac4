import ClusterBatch.Exchange
import ClusterBatch.Outcome

/-!
# Assignments

Each command of a pipeline is assigned to one or more nodes. Command by command and node by node,
it is put into the frame for the node, which is started when the node is used for the first time,
and the place that it gets there is kept. When the replies have come in, each command takes those
that lie at its places. The replies of several nodes to one command are gathered in a map.
-/

namespace ClusterBatch

/-- A command and the nodes it goes to. -/
structure Assignment where
  command : Command
  target : Target
  nodes : List NodeAddress

/-- A place in one of several frames: which frame, and behind how many commands. -/
structure Placement where
  frame : Nat
  index : Nat
  deriving DecidableEq, Repr

namespace Parcel

def extend (command : Command) (parcel : Parcel) : Parcel :=
  { parcel with frame := parcel.frame ++ command.encode, count := parcel.count + 1 }

/-- Puts a command into the parcel for a node, which is a new one behind the others if the node has
none yet. -/
def put (command : Command) (node : NodeAddress) : List Parcel → Placement × List Parcel
  | [] => (⟨0, 0⟩, [extend command ⟨node, [], 0⟩])
  | parcel :: rest =>
    if parcel.node = node then (⟨0, parcel.count⟩, parcel.extend command :: rest)
    else
      let (placement, rest) := put command node rest
      (⟨placement.frame + 1, placement.index⟩, parcel :: rest)

end Parcel

namespace Assignment

def ofCommands (topology : Topology) (hint : Option Hint) (commands : List Command) :
    Routing (List Assignment) :=
  commands.mapM fun command => do
    let target ← Router.route topology command hint
    pure ⟨command, target, ← Router.resolve topology target⟩

def pack (assignment : Assignment) : StateM (List Parcel) (List Placement) :=
  assignment.nodes.mapM fun node => modifyGet (Parcel.put assignment.command node)

/-- Puts commands into frames. Returns the places of each command and the frames. -/
def packAll (assignments : List Assignment) : List (List Placement) × List Parcel :=
  (assignments.mapM pack).run []

end Assignment

/-- The replies to several frames, without those that have been handed out. -/
abbrev Inbox := List (List (Option Reply))

namespace Inbox

def ofReplies (replies : List (List Reply)) : Inbox := replies.map (List.map some)

def look (nodes : List NodeAddress) (placement : Placement) (inbox : Inbox) : NodeAddress × Reply :=
  (nodes.getD placement.frame default,
    ((inbox.getD placement.frame []).getD placement.index none).getD .null)

def clear (placement : Placement) (inbox : Inbox) : Inbox :=
  inbox.modify placement.frame (·.set placement.index none)

def take (nodes : List NodeAddress) (placement : Placement) :
    StateM Inbox (NodeAddress × Reply) :=
  modifyGet fun inbox => (inbox.look nodes placement, inbox.clear placement)

/-- Hands all replies out to the commands they belong to. -/
def deliver (nodes : List NodeAddress) (placed : List (Assignment × List Placement)) :
    StateM Inbox (List (Assignment × List (NodeAddress × Reply))) :=
  placed.mapM fun (assignment, placements) => do
    pure (assignment, ← placements.mapM (take nodes))

end Inbox

namespace Outcome

/-- The outcome of a command that several nodes replied to: a map from the nodes to the replies, or
the first rejection. -/
def gather (replies : List (NodeAddress × Reply)) : Outcome :=
  match replies.findSome? (·.2.errorMessage?) with
  | some message => .failure (.ofLine message)
  | none =>
    .success (.map (replies.map fun (node, reply) => (.bulk (Utf8.encode node.text), reply)))

end Outcome

end ClusterBatch
