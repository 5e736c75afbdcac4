import ClusterBatch.Client

/-!
# Properties of calls

Many properties of calls hold of what is composed of calls that have them. Then it is enough to look
at what calls are made of: exchanges and dispatches, which send, and rounds of searches, which send
and publish.

Main statements: `Compositional.routed` and `Compositional.execute`.
-/

namespace ClusterBatch

variable {σ α : Type}

section Routed

variable [Network σ]

/-- Runs commands that have been assigned to nodes. -/
def Pipeline.carryOut (settings : Settings) (assignments : List Assignment) :
    Call σ (List Outcome) := do
  let (placements, parcels) := Assignment.packAll assignments
  let replies ← dispatch settings.replyLimit settings.backoff parcels
  let nodes := parcels.map Parcel.node
  let (delivered, _) := (Inbox.deliver nodes (assignments.zip placements)).run (.ofReplies replies)
  concludeAll settings false delivered

theorem Pipeline.onCluster_eq (settings : Settings) (hint : Option Hint) (commands : List Command) :
    (onCluster settings hint commands : Call σ _) =
      assign settings hint commands >>= carryOut settings := rfl

def Transaction.carryOut (settings : Settings) (commands : List Command) (node : NodeAddress) :
    Call σ (List Outcome) := do
  let replies ← submit settings node commands
  match moved? commands.length replies with
  | none => settle commands replies
  | some redirect =>
    Discovery.tryRefresh
    settle commands (← submit settings (← redirect.node) commands)

theorem Transaction.onCluster_eq (settings : Settings) (hint : Option Hint)
    (commands : List Command) :
    (onCluster settings hint commands : Call σ _) = (do
      let slot ← commonSlot commands
      Discovery.routed settings (route slot hint) >>= carryOut settings commands) := rfl

end Routed

/-- A property of calls that holds of whatever neither sends nor publishes anything, of one call
after the other, and of a call whose errors are handled. -/
structure Compositional (holds : (α : Type) → Call σ α → Prop) : Prop where
  idle {α : Type} {call : Call σ α} (h : ∀ session,
    (call.run.run session).2.directory = session.directory ∧
      (call.run.run session).2.log = session.log) : holds α call
  bind {α β : Type} {call : Call σ α} {next : α → Call σ β} (h : holds α call)
    (hnext : ∀ a, holds β (next a)) : holds β (call >>= next)
  tryCatch {α : Type} {call : Call σ α} {handle : Error → Call σ α} (h : holds α call)
    (hhandle : ∀ e, holds α (handle e)) : holds α (tryCatch call handle)

namespace Compositional

open Discovery

variable {holds : (α : Type) → Call σ α → Prop} (h : Compositional holds)

include h

theorem pure (a : α) : holds α (Pure.pure a) := h.idle fun _ => ⟨rfl, rfl⟩

theorem throw (e : Error) : holds α (MonadExcept.throw e) := h.idle fun _ => ⟨rfl, rfl⟩

theorem ofExcept (result : Except Error α) : holds α result := by
  cases result with
  | ok a => exact h.pure a
  | error e => exact h.throw e

theorem settle (commands : List Command) (replies : List Reply) :
    holds (List Outcome) (Transaction.settle commands replies) := by
  unfold Transaction.settle
  split
  · exact h.pure _
  · exact h.throw _

/-! ## Searches -/

variable [Network σ] (hrefresh : holds Topology refresh)

include hrefresh

theorem refreshRounds (retries : Nat) (backoff : Backoff) (left : Nat) :
    holds Topology (refreshRounds retries backoff left) := by
  induction left with
  | zero => exact hrefresh
  | succ left ih =>
    exact h.tryCatch hrefresh fun _ => h.bind (h.idle fun _ => ⟨rfl, rfl⟩) fun _ => ih

theorem tryRefresh : holds Unit tryRefresh :=
  h.tryCatch (h.bind hrefresh fun _ => h.pure ()) fun _ => h.pure ()

theorem topology (settings : Settings) : holds Topology (topology settings) := by
  refine h.bind (h.idle fun _ => ⟨rfl, rfl⟩) fun session => ?_
  dsimp only
  split
  · exact h.refreshRounds hrefresh _ _ _
  · exact h.pure _

/-- What holds of a round of a search holds of a decision about routing, which may need some. -/
theorem routed (settings : Settings) (decision : Topology → Routing α) :
    holds α (routed settings decision) := by
  have hrouting (topology : Topology) : holds α (Session.routing (decision topology)) :=
    h.idle fun _ => ⟨rfl, rfl⟩
  refine h.bind (h.topology hrefresh settings) fun current => ?_
  refine h.tryCatch (hrouting current) fun e => ?_
  cases e with
  | topologyGap slot => exact h.bind (h.refreshRounds hrefresh _ _ _) hrouting
  | _ => exact h.throw _

theorem heed (refreshed : Bool) (kind : RedirectKind) :
    holds Unit (Pipeline.heed refreshed kind) := by
  cases kind with
  | ask => exact h.pure ()
  | moved =>
    cases refreshed with
    | true => exact h.pure ()
    | false => exact h.tryRefresh hrefresh

/-! ## Batches -/

variable (hexchange : ∀ (limit : Option Nat) (backoff : Backoff) (parcel : Parcel),
  holds (List Reply) (parcel.exchange limit backoff))

include hexchange

theorem hop (settings : Settings) (command : Command) (refreshed : Bool) (redirect : Redirect) :
    holds Reply (Pipeline.hop settings command refreshed redirect) :=
  h.bind (h.ofExcept _) fun _ => h.bind (h.heed hrefresh _ _) fun _ =>
    h.bind (hexchange _ _ _) fun _ => h.pure _

theorem follow (settings : Settings) (command : Command) (left : Nat) (refreshed : Bool)
    (redirect : Redirect) :
    holds (Outcome × Bool) (Pipeline.follow settings command left refreshed redirect) := by
  induction left generalizing refreshed redirect with
  | zero => exact h.throw _
  | succ left ih =>
    refine h.bind (h.hop hrefresh hexchange settings command refreshed redirect) fun reply => ?_
    dsimp only
    split
    · exact ih _ _
    · exact h.pure _

theorem conclude (settings : Settings) (refreshed : Bool) (assignment : Assignment)
    (replies : List (NodeAddress × Reply)) :
    holds (Outcome × Bool) (Pipeline.conclude settings refreshed assignment replies) := by
  unfold Pipeline.conclude
  split
  · exact h.pure _
  · dsimp only
    split
    · exact h.follow hrefresh hexchange _ _ _ _ _
    · exact h.pure _

theorem concludeAll (settings : Settings) (refreshed : Bool)
    (delivered : List (Assignment × List (NodeAddress × Reply))) :
    holds (List Outcome) (Pipeline.concludeAll settings refreshed delivered) := by
  induction delivered generalizing refreshed with
  | nil => exact h.pure _
  | cons part rest ih =>
    exact h.bind (h.conclude hrefresh hexchange settings refreshed part.1 part.2) fun concluded =>
      h.bind (ih concluded.2) fun _ => h.pure _

theorem transaction (settings : Settings) (hint : Option Hint) (commands : List Command) :
    holds (List Outcome) (Transaction.onCluster settings hint commands) := by
  have hlast (node : NodeAddress) : holds (List Outcome) (do
      Transaction.settle commands (← Transaction.submit settings node commands)) :=
    h.bind (hexchange _ _ _) (h.settle commands)
  refine h.bind (h.ofExcept _) fun slot => h.bind (h.routed hrefresh settings _) fun node =>
    h.bind (hexchange _ _ _) fun replies => ?_
  split
  · exact h.settle commands replies
  · exact h.bind (h.tryRefresh hrefresh) fun _ => h.bind (h.ofExcept _) hlast

variable (hdispatch : ∀ (limit : Option Nat) (backoff : Backoff) (parcels : List Parcel),
  holds (List (List Reply)) (dispatch limit backoff parcels))

include hdispatch

theorem pipeline (settings : Settings) (hint : Option Hint) (commands : List Command) :
    holds (List Outcome) (Pipeline.onCluster settings hint commands) :=
  h.bind (h.routed hrefresh settings _) fun _ => h.bind (hdispatch _ _ _) fun _ =>
    h.concludeAll hrefresh hexchange settings _ _

/-- What holds of exchanges, of dispatches and of a round of a search holds of whole batches. -/
theorem execute (client : Client) (batch : Batch) (hint : Option Hint) :
    holds (List Outcome) (client.execute batch hint) := by
  unfold Client.execute
  split
  · exact h.pure _
  · split
    · exact h.bind (hexchange _ _ _) fun _ => h.pure _
    · exact h.bind (hexchange _ _ _) (h.settle _)
    · exact h.pipeline hrefresh hexchange hdispatch _ _ _
    · exact h.transaction hrefresh hexchange _ _ _

end Compositional

end ClusterBatch
