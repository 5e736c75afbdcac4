import ClusterBatch.Assignment
import ClusterBatch.Discovery
import ClusterBatch.Dispatch

/-!
# Pipelines

The commands of a pipeline stand alone. On a cluster every node gets one frame with the commands
assigned to it, and the replies are handed back to the commands. A redirect is followed for the one
command that got it, and only then the next command is concluded.
-/

namespace ClusterBatch

namespace Pipeline

variable {σ : Type} [Network σ]

/-- The parcel that follows a redirect with one command. -/
def redirected (node : NodeAddress) (kind : RedirectKind) (command : Command) : Parcel :=
  match kind with
  | .moved => ⟨node, command.encode, 1⟩
  | .ask => ⟨node, Request.asking.encode ++ command.encode, 2⟩

/-- Looks for a newer topology after a redirect that says that there is one, unless that has been
done before. -/
def heed (refreshed : Bool) : RedirectKind → Call σ Unit
  | .moved => if refreshed then pure () else Discovery.tryRefresh
  | .ask => pure ()

/-- Sends a command where a redirect says, and returns the reply from there. -/
def hop (settings : Settings) (command : Command) (refreshed : Bool) (redirect : Redirect) :
    Call σ Reply := do
  let node ← redirect.node
  heed refreshed redirect.kind
  let replies ← (redirected node redirect.kind command).exchange settings.replyLimit
    settings.backoff
  pure (replies.getLastD .null)

/-- Follows redirects of one command, up to the given number. Whether the whole call has looked for
a newer topology is passed along. -/
def follow (settings : Settings) (command : Command) :
    Nat → Bool → Redirect → Call σ (Outcome × Bool)
  | 0, _, redirect => throw (.tooManyRedirects redirect.slot)
  | hops + 1, refreshed, redirect => do
    let reply ← hop settings command refreshed redirect
    let refreshed := refreshed || redirect.kind = .moved
    match Redirect.ofReply? reply with
    | some next => follow settings command hops refreshed next
    | none => pure (.ofReply reply, refreshed)

/-- What a command comes to, given the replies of its nodes. -/
def conclude (settings : Settings) (refreshed : Bool) (assignment : Assignment)
    (replies : List (NodeAddress × Reply)) : Call σ (Outcome × Bool) :=
  if assignment.target.isMultiNode then pure (.gather replies, refreshed)
  else
    let reply := (replies.map Prod.snd).headD .null
    match Redirect.ofReply? reply with
    | some redirect =>
      follow settings assignment.command settings.maxRedirects.toNat refreshed redirect
    | none => pure (.ofReply reply, refreshed)

def concludeAll (settings : Settings) :
    Bool → List (Assignment × List (NodeAddress × Reply)) → Call σ (List Outcome)
  | _, [] => pure []
  | refreshed, (assignment, replies) :: rest => do
    let (outcome, refreshed) ← conclude settings refreshed assignment replies
    pure (outcome :: (← concludeAll settings refreshed rest))

def assign (settings : Settings) (hint : Option Hint) (commands : List Command) :
    Call σ (List Assignment) :=
  Discovery.routed settings fun topology => Assignment.ofCommands topology hint commands

def onCluster (settings : Settings) (hint : Option Hint) (commands : List Command) :
    Call σ (List Outcome) := do
  let assignments ← assign settings hint commands
  let (placements, parcels) := Assignment.packAll assignments
  let replies ← dispatch settings.replyLimit settings.backoff parcels
  let nodes := parcels.map Parcel.node
  let (delivered, _) := (Inbox.deliver nodes (assignments.zip placements)).run (.ofReplies replies)
  concludeAll settings false delivered

def onNode (settings : Settings) (node : NodeAddress) (commands : List Command) :
    Call σ (List Outcome) := do
  let parcel : Parcel := ⟨node, commands.flatMap Command.encode, commands.length⟩
  let replies ← parcel.exchange settings.replyLimit settings.backoff
  pure (replies.map Outcome.ofReply)

end Pipeline

end ClusterBatch
