import ClusterBatch.Discovery
import ClusterBatch.Outcome

/-!
# Transactions

The commands of a transaction are sent in one frame, between an opening and a closing request, so
that a single node applies all of them or none. All keys of the commands must therefore share a
slot. The node acknowledges each command and answers the closing request with all replies at once,
or with the reason why nothing was applied.
-/

namespace ClusterBatch

namespace Transaction

variable {σ : Type} [Network σ]

/-- The slot that all keys of some commands share, if there are any keys. -/
def commonSlot (commands : List Command) : Except Error (Option Nat) :=
  match (commands.flatMap Command.keys).map Slot.ofKey with
  | [] => .ok none
  | first :: rest =>
    match rest.find? (· ≠ first) with
    | some other => .error (.crossSlot first other)
    | none => .ok (some first)

def parcel (node : NodeAddress) (commands : List Command) : Parcel where
  node := node
  frame := Request.multi.encode ++ commands.flatMap Command.encode ++ Request.exec.encode
  count := commands.length + 2

/-- The outcome of every command when a watched key changed. -/
def aborted : Outcome :=
  .failure ⟨"EXECABORT", "Transaction discarded because a watched key changed"⟩

/-- What the commands come to, given the answer to the closing request and the acknowledgements. A
command that was not acknowledged fails for its own reason. -/
def closing (count : Nat) (acknowledgements : List Reply) (exec : Reply) :
    Except ProtocolError (List Outcome) :=
  match exec, exec.errorMessage? with
  | .array items, _ =>
    if items.length = count then .ok (items.map Outcome.ofReply)
    else .error (.unexpectedExec count exec)
  | .null, _ => .ok (List.replicate count aborted)
  | _, some message =>
    .ok ((List.range count).map fun i =>
      let own := acknowledgements[i]?.bind Reply.errorMessage?
      .failure (.ofLine (own.getD message)))
  | _, none => .error (.unexpectedExec count exec)

/-- What the given number of commands come to, given all replies. -/
def outcomes (count : Nat) (replies : List Reply) : Except ProtocolError (List Outcome) :=
  let before := replies.dropLast
  match before.head?.bind Reply.errorMessage? with
  | some message => .ok (List.replicate count (.failure (.ofLine message)))
  | none => closing count (before.drop 1) (replies.getLastD .null)

/-- The first acknowledgement that says that the slot has moved. -/
def moved? (count : Nat) (replies : List Reply) : Option Redirect :=
  ((replies.drop 1).take count).findSome? fun reply =>
    (Redirect.ofReply? reply).filter (·.kind = .moved)

/-- The node that runs a transaction: the primary of the slot, or as the hint says. -/
def route (slot : Option Nat) (hint : Option Hint) (topology : Topology) : Routing NodeAddress := do
  let target ← match slot, hint with
    | some slot, _ => Router.slotTarget topology slot false
    | none, some (.slotKey key) => Router.slotTarget topology (Slot.ofKey key) false
    | none, some (.address node) => pure (.named node)
    | none, _ => pure .random
  match ← Router.resolve topology target with
  | node :: _ => pure node
  | [] => throw (.discovery .noNodes)

def submit (settings : Settings) (node : NodeAddress) (commands : List Command) :
    Call σ (List Reply) :=
  (parcel node commands).exchange settings.replyLimit settings.backoff

def settle (commands : List Command) (replies : List Reply) : Call σ (List Outcome) :=
  match outcomes commands.length replies with
  | .ok outcomes => pure outcomes
  | .error cause => throw (.protocol cause)

/-- Runs a transaction on a node of a cluster. A transaction whose slot has moved is sent once more,
to the node it has moved to. -/
def onCluster (settings : Settings) (hint : Option Hint) (commands : List Command) :
    Call σ (List Outcome) := do
  let slot ← commonSlot commands
  let node ← Discovery.routed settings (route slot hint)
  let replies ← submit settings node commands
  match moved? commands.length replies with
  | none => settle commands replies
  | some redirect =>
    Discovery.tryRefresh
    settle commands (← submit settings (← redirect.node) commands)

def onNode (settings : Settings) (node : NodeAddress) (commands : List Command) :
    Call σ (List Outcome) := do
  settle commands (← submit settings node commands)

end Transaction

end ClusterBatch
