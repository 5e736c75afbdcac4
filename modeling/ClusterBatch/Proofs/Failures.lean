import ClusterBatch.Proofs.Refreshing

/-!
# What calls fail with

The errors that a step may fail with are found function by function: connections and replies for
what is sent, discovery for a search of a topology, gaps for decisions about routing. A step that
handles an error fails only with what its handler fails with.

Main statements: `Transaction.failsOnly_onCluster`, a transaction whose keys share a slot fails for
want of a node to send it to, or because of what comes back from one; `Pipeline.failsOnly_carryOut`,
a pipeline whose commands have been assigned fails because of what comes back.
-/

namespace ClusterBatch

/-- A step fails with nothing but the given errors. -/
def FailsOnly {ς α : Type} (allowed : Error → Prop) (step : ExceptT Error (StateM ς) α) : Prop :=
  ∀ before e after, step.run.run before = (.error e, after) → allowed e

namespace FailsOnly

variable {ς α β : Type} {allowed raised : Error → Prop} {step : ExceptT Error (StateM ς) α}
  {next : α → ExceptT Error (StateM ς) β} {handle : Error → ExceptT Error (StateM ς) α}

theorem mono (h : FailsOnly raised step) (himp : ∀ e, raised e → allowed e) :
    FailsOnly allowed step :=
  fun before e after hrun => himp e (h before e after hrun)

/-- What holds of a step that never fails. -/
theorem never (h : ∀ before, ∃ a, (step.run.run before).1 = .ok a) : FailsOnly allowed step := by
  intro before e after hrun
  obtain ⟨a, ha⟩ := h before
  rw [hrun] at ha
  cases ha

theorem pure (a : α) : FailsOnly allowed (Pure.pure a : ExceptT Error (StateM ς) α) :=
  never fun _ => ⟨a, rfl⟩

theorem lift (activity : StateM ς α) :
    FailsOnly allowed (activity : ExceptT Error (StateM ς) α) :=
  never fun _ => ⟨_, rfl⟩

theorem throw {e : Error} (h : allowed e) :
    FailsOnly allowed (MonadExcept.throw e : ExceptT Error (StateM ς) α) := by
  intro before e' after hrun
  cases hrun
  exact h

theorem ofExcept {result : Except Error α} (h : ∀ e, result = .error e → allowed e) :
    FailsOnly allowed (result : ExceptT Error (StateM ς) α) := by
  cases result with
  | ok a => exact pure a
  | error e => exact throw (h e rfl)

theorem bind (h : FailsOnly allowed step) (hnext : ∀ a, FailsOnly allowed (next a)) :
    FailsOnly allowed (step >>= next) := by
  intro before e after hrun
  rcases hstep : step.run.run before with ⟨result, middle⟩
  cases result with
  | ok a =>
    rw [Fallible.run_bind_of_ok hstep] at hrun
    exact hnext a middle e after hrun
  | error e' =>
    rw [Fallible.run_bind_of_error hstep] at hrun
    cases hrun
    exact h before e after hstep

theorem tryCatch (h : FailsOnly raised step)
    (hhandle : ∀ e, raised e → FailsOnly allowed (handle e)) :
    FailsOnly allowed (tryCatch step handle) := by
  intro before e after hrun
  rcases hstep : step.run.run before with ⟨result, middle⟩
  cases result with
  | ok a =>
    rw [Fallible.run_tryCatch_of_ok hstep] at hrun
    cases hrun
  | error e' =>
    rw [Fallible.run_tryCatch_of_error hstep] at hrun
    exact hhandle e' (h before e' middle hstep) middle e after hrun

theorem mapM {γ : Type} {f : γ → ExceptT Error (StateM ς) α}
    (h : ∀ item, FailsOnly allowed (f item)) (items : List γ) :
    FailsOnly allowed (items.mapM f) := by
  induction items with
  | nil => exact pure []
  | cons item items ih =>
    rw [List.mapM_cons]
    exact (h item).bind fun a => ih.bind fun rest => pure (a :: rest)

theorem adapt {ε : Type} {f : ε → Error} (h : ∀ e, allowed (f e))
    (activity : StateM ς (Except ε α)) :
    FailsOnly allowed (ExceptT.adapt f (ExceptT.mk activity)) := by
  intro before e after hrun
  rw [Fallible.run_adapt] at hrun
  cases hresult : (activity.run before).1 with
  | ok a => rw [hresult] at hrun; cases hrun
  | error e' => rw [hresult] at hrun; cases hrun; exact h e'

end FailsOnly

namespace Error

/-- A topology could not be found, or has no node to send to. -/
def IsDiscovery (e : Error) : Prop := ∃ cause, e = .discovery cause

/-- There is no topology in which a node serves the slot. -/
def IsUnrouted (e : Error) : Prop := e.IsDiscovery ∨ ∃ slot, e = .topologyGap slot

/-- A topology has no node to send to, or the slot is a gap in it. -/
def IsUnroutedIn (topology : Topology) (e : Error) : Prop :=
  e.IsDiscovery ∨ ∃ slot, e = .topologyGap slot ∧ topology.owner? slot = none

theorem IsUnroutedIn.isUnrouted {topology : Topology} {e : Error} (h : e.IsUnroutedIn topology) :
    e.IsUnrouted :=
  h.imp_right fun ⟨slot, heq, _⟩ => ⟨slot, heq⟩

/-- The connection to a node failed, or what it replied makes no sense. -/
def IsAnswer (e : Error) : Prop :=
  (∃ node cause, e = .connection node cause) ∨ ∃ cause, e = .protocol cause

/-- What nodes reply makes no sense or leads nowhere. -/
def IsUnanswered (e : Error) : Prop := e.IsAnswer ∨ ∃ slot, e = .tooManyRedirects slot

theorem isAnswer_ofExchange (node : NodeAddress) (cause : ExchangeError) :
    (ofExchange node cause).IsAnswer := by
  cases cause with
  | connection cause => exact .inl ⟨node, cause, rfl⟩
  | undecodable cause => exact .inr ⟨_, rfl⟩

end Error

variable {σ : Type} [Network σ]

theorem Parcel.failsOnly_exchange (limit : Option Nat) (backoff : Backoff) (parcel : Parcel) :
    FailsOnly Error.IsAnswer (parcel.exchange limit backoff : Call σ _) :=
  .adapt (Error.isAnswer_ofExchange parcel.node) _

theorem Dispatch.failsOnly_together (limit : Option Nat) (backoff : Backoff)
    (parcels : List Parcel) :
    FailsOnly Error.IsAnswer (together limit backoff parcels : Call σ _) := by
  intro session e after hrun
  obtain ⟨flights, hflights⟩ : ∃ flights, conclusion flights = .error e :=
    ⟨_, congrArg Prod.fst hrun⟩
  unfold conclusion at hflights
  split at hflights
  · next cause hcause =>
    cases hflights
    obtain ⟨flight, -, hfailure⟩ := List.exists_of_findSome?_eq_some hcause
    unfold Flight.failure? at hfailure
    split at hfailure <;> cases hfailure
    exact Error.isAnswer_ofExchange _ _
  · cases hflights

theorem failsOnly_dispatch (limit : Option Nat) (backoff : Backoff) (parcels : List Parcel) :
    FailsOnly Error.IsAnswer (dispatch limit backoff parcels : Call σ _) := by
  match parcels with
  | [] => exact Dispatch.failsOnly_together limit backoff []
  | [parcel] => exact .bind (parcel.failsOnly_exchange limit backoff) fun _ => .pure _
  | first :: second :: rest =>
    exact Dispatch.failsOnly_together limit backoff (first :: second :: rest)

namespace Discovery

theorem failsOnly_refreshFrom (nodes : List NodeAddress) :
    FailsOnly Error.IsDiscovery (refreshFrom nodes : Call σ _) := by
  intro session e after hrun
  rw [run_refreshFrom] at hrun
  split at hrun
  · cases hrun
    exact ⟨_, rfl⟩
  · dsimp only at hrun
    split at hrun <;> cases hrun
    exact ⟨_, rfl⟩

theorem failsOnly_refresh : FailsOnly Error.IsDiscovery (refresh : Call σ _) :=
  .bind (.lift _) fun _ => failsOnly_refreshFrom _

theorem failsOnly_refreshRounds (retries : Nat) (backoff : Backoff) (left : Nat) :
    FailsOnly Error.IsDiscovery (refreshRounds retries backoff left : Call σ _) := by
  induction left with
  | zero => exact failsOnly_refresh
  | succ left ih => exact failsOnly_refresh.tryCatch fun _ _ => .bind (.lift _) fun _ => ih

theorem failsOnly_tryRefresh {allowed : Error → Prop} :
    FailsOnly allowed (tryRefresh : Call σ _) := by
  have hsearch : FailsOnly Error.IsDiscovery (discard refresh : Call σ Unit) :=
    failsOnly_refresh.bind fun _ => .pure _
  exact hsearch.tryCatch fun _ _ => .pure _

theorem failsOnly_topology (settings : Settings) :
    FailsOnly Error.IsDiscovery (topology settings : Call σ _) := by
  refine .bind (.lift _) fun session => ?_
  dsimp only
  split
  · exact failsOnly_refreshRounds _ _ _
  · exact .pure _

omit [Network σ] in
theorem failsOnly_routing {α : Type} {allowed : Error → Prop} {decision : Routing α}
    (h : FailsOnly allowed decision) : FailsOnly allowed (Session.routing decision : Call σ _) := by
  intro session e after hrun
  have hresult : (decision.run.run session.router).1 = .error e := congrArg Prod.fst hrun
  exact h session.router e _ (Prod.ext hresult rfl)

/-- A decision about routing fails with what is wrong with the decision itself, or because no
topology is found to make it against. -/
theorem failsOnly_routed {α : Type} {settings : Settings} {decision : Topology → Routing α}
    (h : ∀ topology, FailsOnly (Error.IsUnroutedIn topology) (decision topology)) :
    FailsOnly Error.IsUnrouted (routed settings decision : Call σ _) := by
  have hdecision (topology : Topology) : FailsOnly Error.IsUnrouted (decision topology) :=
    (h topology).mono fun _ => Error.IsUnroutedIn.isUnrouted
  have hfound {call : Call σ Topology} (hcall : FailsOnly Error.IsDiscovery call) :
      FailsOnly Error.IsUnrouted call := hcall.mono fun _ => .inl
  refine .bind (hfound (failsOnly_topology settings)) fun current => ?_
  refine (failsOnly_routing (hdecision current)).tryCatch fun e he => ?_
  cases e with
  | topologyGap slot =>
    exact .bind (hfound (failsOnly_refreshRounds _ _ _)) fun newer =>
      failsOnly_routing (hdecision newer)
  | _ => exact .throw he

end Discovery

namespace Router

theorem failsOnly_slotTarget (topology : Topology) (slot : Nat) (readOnly : Bool) :
    FailsOnly (Error.IsUnroutedIn topology) (slotTarget topology slot readOnly) := by
  refine .bind (.ofExcept ?_) fun _ => .never fun _ => ⟨_, rfl⟩
  intro e he
  unfold Topology.lookup at he
  split at he
  · cases he
  · next hgap =>
    cases he
    exact .inr ⟨slot, rfl, hgap⟩

theorem failsOnly_resolve (topology : Topology) (target : Target) :
    FailsOnly (Error.IsUnroutedIn topology) (resolve topology target) := by
  have hnodes (nodes : List NodeAddress) :
      FailsOnly (Error.IsUnroutedIn topology) (resolve.ofNodes nodes) := by
    unfold resolve.ofNodes
    split
    · exact .throw (.inl ⟨_, rfl⟩)
    · exact .pure _
  have hrandom : FailsOnly (Error.IsUnroutedIn topology) (randomPrimary topology) := by
    unfold randomPrimary
    split
    · exact .throw (.inl ⟨_, rfl⟩)
    · exact .bind (.lift _) fun _ => .pure _
  cases target with
  | serving node => exact .pure _
  | named node => exact .pure _
  | random => exact .bind hrandom fun _ => .pure _
  | allPrimaries => exact hnodes _
  | allNodes => exact hnodes _

theorem failsOnly_route (topology : Topology) (command : Command) (hint : Option Hint) :
    FailsOnly (Error.IsUnroutedIn topology) (route topology command hint) := by
  unfold route
  cases command.firstKey? with
  | some key => exact failsOnly_slotTarget _ _ _
  | none =>
    match hint with
    | none | some .random | some .allPrimaries | some .allNodes | some (.address _) => exact .pure _
    | some (.slotKey key) => exact failsOnly_slotTarget _ _ _

end Router

theorem Assignment.failsOnly_ofCommands (topology : Topology) (hint : Option Hint)
    (commands : List Command) :
    FailsOnly (Error.IsUnroutedIn topology) (ofCommands topology hint commands) :=
  .mapM (fun command => .bind (Router.failsOnly_route topology command hint) fun target =>
    .bind (Router.failsOnly_resolve topology target) fun _ => .pure _) commands

omit [Network σ] in
theorem Redirect.failsOnly_node (redirect : Redirect) :
    FailsOnly Error.IsAnswer (redirect.node : Call σ _) := by
  refine .ofExcept ?_
  intro e he
  unfold node at he
  split at he <;> cases he
  exact .inr ⟨_, rfl⟩

namespace Transaction

theorem failsOnly_firstNode (topology : Topology) (target : Target) :
    FailsOnly (Error.IsUnroutedIn topology) (do
      match ← Router.resolve topology target with
      | node :: _ => pure node
      | [] => throw (.discovery .noNodes)) := by
  refine .bind (Router.failsOnly_resolve topology target) fun nodes => ?_
  cases nodes with
  | nil => exact .throw (.inl ⟨_, rfl⟩)
  | cons node rest => exact .pure node

theorem failsOnly_route (slot : Option Nat) (hint : Option Hint) (topology : Topology) :
    FailsOnly (Error.IsUnroutedIn topology) (route slot hint topology) := by
  unfold route
  split
  · exact .bind (Router.failsOnly_slotTarget topology _ false) (failsOnly_firstNode topology)
  · exact .bind (Router.failsOnly_slotTarget topology _ false) (failsOnly_firstNode topology)
  · exact .bind (.pure _) (failsOnly_firstNode topology)
  · exact .bind (.pure _) (failsOnly_firstNode topology)

variable {settings : Settings} {commands : List Command}

theorem failsOnly_submit (node : NodeAddress) :
    FailsOnly Error.IsAnswer (submit settings node commands : Call σ _) :=
  Parcel.failsOnly_exchange _ _ _

omit [Network σ] in
theorem failsOnly_settle (replies : List Reply) :
    FailsOnly Error.IsAnswer (settle commands replies : Call σ _) := by
  unfold settle
  split
  · exact .pure _
  · exact .throw (.inr ⟨_, rfl⟩)

/-- Once a node has been chosen, a transaction fails because of what comes back. -/
theorem failsOnly_carryOut (node : NodeAddress) :
    FailsOnly Error.IsAnswer (carryOut settings commands node : Call σ _) := by
  have hagain (redirect : Redirect) : FailsOnly Error.IsAnswer (do
      Discovery.tryRefresh
      settle commands (← submit settings (← redirect.node) commands) : Call σ (List Outcome)) :=
    .bind Discovery.failsOnly_tryRefresh fun _ => .bind redirect.failsOnly_node fun node =>
      .bind (failsOnly_submit node) failsOnly_settle
  refine .bind (failsOnly_submit node) fun replies => ?_
  cases moved? commands.length replies with
  | none => exact failsOnly_settle replies
  | some redirect => exact hagain redirect

/-- A transaction whose keys share a slot fails for want of a node to send it to, or because of what
comes back from one. -/
theorem failsOnly_onCluster {hint : Option Hint} {slot : Option Nat}
    (h : commonSlot commands = .ok slot) :
    FailsOnly (fun e => e.IsUnrouted ∨ e.IsAnswer)
      (onCluster settings hint commands : Call σ _) := by
  have hrouted (slot : Option Nat) : FailsOnly (fun e => e.IsUnrouted ∨ e.IsAnswer)
      (Discovery.routed settings (route slot hint) : Call σ _) :=
    (Discovery.failsOnly_routed (failsOnly_route slot hint)).mono fun _ => .inl
  have hcarried (node : NodeAddress) : FailsOnly (fun e => e.IsUnrouted ∨ e.IsAnswer)
      (carryOut settings commands node : Call σ _) :=
    (failsOnly_carryOut node).mono fun _ => .inr
  rw [onCluster_eq, h]
  exact .bind (.pure _) fun slot => .bind (hrouted slot) hcarried

end Transaction

namespace Pipeline

theorem failsOnly_hop (settings : Settings) (command : Command) (refreshed : Bool)
    (redirect : Redirect) :
    FailsOnly Error.IsAnswer (hop settings command refreshed redirect : Call σ _) := by
  have hheed : FailsOnly Error.IsAnswer (heed refreshed redirect.kind : Call σ _) := by
    unfold heed
    split
    · split
      · exact .pure ()
      · exact Discovery.failsOnly_tryRefresh
    · exact .pure ()
  exact .bind redirect.failsOnly_node fun _ => .bind hheed fun _ =>
    .bind (Parcel.failsOnly_exchange _ _ _) fun _ => .pure _

theorem failsOnly_follow (settings : Settings) (command : Command) (hops : Nat) (refreshed : Bool)
    (redirect : Redirect) :
    FailsOnly Error.IsUnanswered (follow settings command hops refreshed redirect : Call σ _) := by
  induction hops generalizing refreshed redirect with
  | zero => exact .throw (.inr ⟨redirect.slot, rfl⟩)
  | succ hops ih =>
    have hhop : FailsOnly Error.IsUnanswered (hop settings command refreshed redirect : Call σ _) :=
      (failsOnly_hop settings command refreshed redirect).mono fun _ => .inl
    refine .bind hhop fun reply => ?_
    dsimp only
    split
    · exact ih _ _
    · exact .pure _

theorem failsOnly_conclude (settings : Settings) (refreshed : Bool) (assignment : Assignment)
    (replies : List (NodeAddress × Reply)) :
    FailsOnly Error.IsUnanswered (conclude settings refreshed assignment replies : Call σ _) := by
  unfold conclude
  split
  · exact .pure _
  · dsimp only
    split
    · exact failsOnly_follow _ _ _ _ _
    · exact .pure _

theorem failsOnly_concludeAll (settings : Settings) (refreshed : Bool)
    (delivered : List (Assignment × List (NodeAddress × Reply))) :
    FailsOnly Error.IsUnanswered (concludeAll settings refreshed delivered : Call σ _) := by
  induction delivered generalizing refreshed with
  | nil => exact .pure []
  | cons part rest ih =>
    exact .bind (failsOnly_conclude settings refreshed part.1 part.2) fun concluded =>
      .bind (ih concluded.2) fun _ => .pure _

/-- Once commands have been assigned, a pipeline fails because of what comes back. -/
theorem failsOnly_carryOut (settings : Settings) (assignments : List Assignment) :
    FailsOnly Error.IsUnanswered (carryOut settings assignments : Call σ _) :=
  .bind ((failsOnly_dispatch _ _ _).mono fun _ => .inl) fun _ => failsOnly_concludeAll _ _ _

end Pipeline

end ClusterBatch
