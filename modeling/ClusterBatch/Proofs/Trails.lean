import ClusterBatch.Proofs.Evolution
import ClusterBatch.Proofs.Transactions

/-!
# Trails of calls

A call of a client leaves a trail: the frames that it sends and the searches for a newer topology,
each with the reason why it is made. Frames go where the batch is routed, or follow a redirect that
has come in before. Once the frames of a batch are under way, a newer topology is looked for at most
once, and only because a slot has moved.

Main statements: `Trail.pipeline` and `Trail.transaction`.
-/

namespace ClusterBatch

variable {σ α : Type}

/-- Why a newer topology is looked for. -/
inductive Reason where
  /-- No topology is known yet. -/
  | undiscovered
  /-- The batch cannot be routed, since the slot is a gap in the current topology. -/
  | gap (slot : Nat)
  /-- A node has replied that a slot has moved. -/
  | moved
  deriving DecidableEq

/-- A search for a newer topology: why it is made and what comes of it. -/
structure Search where
  reason : Reason
  result : Except Error Topology

/-- The frames of a batch, where they go according to a topology. -/
def Batch.parcels (hint : Option Hint) (batch : Batch) (topology : Topology) :
    Routing (List Parcel) :=
  if batch.atomic then do
    let slot ← Transaction.commonSlot batch.commands
    let node ← Transaction.route slot hint topology
    pure [Transaction.parcel node batch.commands]
  else Assignment.parcels <$> Assignment.ofCommands topology hint batch.commands

def Received (start session : Session σ) (reply : Reply) : Prop :=
  ∃ replies, Brought (start.since session) replies ∧ reply ∈ replies

/-- A redirect has come in since a call started. -/
def Advised (start session : Session σ) (redirect : Redirect) : Prop :=
  ∃ reply, Received start session reply ∧ Redirect.ofReply? reply = some redirect

/-- A parcel follows a redirect that has come in, with the whole transaction or with one command. -/
def Redirected (batch : Batch) (start session : Session σ) (parcel : Parcel) : Prop :=
  ∃ redirect, Advised start session redirect ∧ redirect.node = .ok parcel.node ∧
    if batch.atomic then
      redirect.kind = .moved ∧ parcel = Transaction.parcel parcel.node batch.commands
    else
      ∃ command ∈ batch.commands, parcel = Pipeline.redirected parcel.node redirect.kind command

namespace Reason

/-- There is this reason to look for a newer topology. -/
def Arises (hint : Option Hint) (batch : Batch) (start session : Session σ) : Reason → Prop
  | undiscovered => session.directory.current.isEmpty
  | gap slot => ∃ router later, (batch.parcels hint session.directory.current).run.run router =
      (.error (.topologyGap slot), later)
  | moved => ∃ redirect, Advised start session redirect ∧ redirect.kind = .moved

/-- What is done for a reason. Only a slot that has moved does not call for persistence. -/
def search [Network σ] (settings : Settings) : Reason → Call σ Topology
  | undiscovered => Discovery.refreshFor settings
  | gap _ => Discovery.refreshFor settings
  | moved => Discovery.refresh

end Reason

variable [Network σ]

/-- How a call goes from its start on: it sends some of the given parcels or follows redirects, and
looks for newer topologies for good reason. Nothing else changes the directory. -/
inductive Trail (settings : Settings) (hint : Option Hint) (batch : Batch) (parcels : List Parcel)
    (start : Session σ) : List Search → Session σ → Prop
  | refl : Trail settings hint batch parcels start [] start
  | send {searches : List Search} {before after : Session σ} {sent : List Transmission}
    (h : Trail settings hint batch parcels start searches before)
    (hdirectory : after.directory = before.directory)
    (hhistory : after.history = before.history ++ sent)
    (hsent : ∀ t ∈ sent, t.parcel ∈ parcels ∨ Redirected batch start before t.parcel) :
    Trail settings hint batch parcels start searches after
  | search {searches : List Search} {before after : Session σ} {reason : Reason}
    {result : Except Error Topology} (h : Trail settings hint batch parcels start searches before)
    (harises : reason.Arises hint batch start before)
    (hsearch : (reason.search settings).run.run before = (result, after)) :
    Trail settings hint batch parcels start (searches ++ [⟨reason, result⟩]) after

omit [Network σ] in
theorem Received.mono {start session later : Session σ} {reply : Reply}
    (hlater : session.history <+: later.history) (h : Received start session reply) :
    Received start later reply := by
  obtain ⟨replies, ⟨t, ht, hresult⟩, hreply⟩ := h
  obtain ⟨more, hmore⟩ := hlater
  refine ⟨replies, ⟨t, ?_, hresult⟩, hreply⟩
  rw [Session.since, ← hmore, List.drop_append]
  exact List.mem_append_left _ ht

omit [Network σ] in
theorem Advised.mono {start session later : Session σ} {redirect : Redirect}
    (hlater : session.history <+: later.history) (h : Advised start session redirect) :
    Advised start later redirect := by
  obtain ⟨reply, hreply, hredirect⟩ := h
  exact ⟨reply, hreply.mono hlater, hredirect⟩

theorem Reason.history_search {settings : Settings} {reason : Reason} {before after : Session σ}
    {result : Except Error Topology}
    (h : (reason.search settings).run.run before = (result, after)) :
    before.history <+: after.history := by
  have hrounds : OnlySearches (Discovery.refreshFor settings : Call σ _).run :=
    compositional_onlySearches.refreshRounds Discovery.onlySearches_refresh _ _ _
  have honly : OnlySearches (reason.search settings : Call σ _).run := by
    cases reason with
    | undiscovered => exact hrounds
    | gap slot => exact hrounds
    | moved => exact Discovery.onlySearches_refresh
  obtain ⟨events, hevolves, -⟩ := honly before
  rw [h] at hevolves
  exact hevolves.history

namespace Trail

variable {settings : Settings} {hint : Option Hint} {batch : Batch} {parcels : List Parcel}
  {start before after : Session σ} {searches : List Search}

theorem history (h : Trail settings hint batch parcels start searches before) :
    start.history <+: before.history := by
  induction h with
  | refl => exact List.prefix_rfl
  | send _ _ hhistory _ ih => exact ih.trans ⟨_, hhistory.symm⟩
  | search _ _ hsearch ih => exact ih.trans (Reason.history_search hsearch)

/-- What is brought from now on has been received by then. -/
theorem received (h : Trail settings hint batch parcels start searches before)
    {sent : List Transmission} {replies : List Reply} {reply : Reply}
    (hhistory : after.history = before.history ++ sent) (hbrought : Brought sent replies)
    (hreply : reply ∈ replies) : Received start after reply := by
  obtain ⟨first, hfirst⟩ := h.history
  have hsince : start.since after = first ++ sent :=
    Session.since_eq (by rw [hhistory, ← hfirst, List.append_assoc])
  obtain ⟨t, ht, hresult⟩ := hbrought
  exact ⟨replies, ⟨t, hsince ▸ List.mem_append_right _ ht, hresult⟩, hreply⟩

/-- What neither sends nor publishes anything leaves no trail. -/
theorem quiet (h : Trail settings hint batch parcels start searches before)
    (hdirectory : after.directory = before.directory) (hlog : after.log = before.log) :
    Trail settings hint batch parcels start searches after := by
  have hhistory : after.history = before.history ++ [] := by
    rw [List.append_nil]
    exact congrArg List.reverse hlog
  exact h.send hdirectory hhistory (by simp)

/-! ## Sending -/

variable {limit : Option Nat} {backoff : Backoff}

theorem exchange (h : Trail settings hint batch parcels start searches before) {parcel : Parcel}
    {result : Except Error (List Reply)}
    (hparcel : parcel ∈ parcels ∨ Redirected batch start before parcel)
    (hrun : (parcel.exchange limit backoff).run.run before = (result, after)) :
    Trail settings hint batch parcels start searches after ∧
      before.history <+: after.history ∧
      ∀ replies, result = .ok replies → ∀ reply ∈ replies, Received start after reply := by
  obtain ⟨sent, hhistory, hdirectory, honly, hbrought⟩ := parcel.adds_exchange limit backoff before
  rw [hrun] at hhistory hdirectory hbrought
  refine ⟨h.send hdirectory hhistory fun t ht => honly t ht ▸ hparcel, ⟨sent, hhistory.symm⟩, ?_⟩
  intro replies hreplies reply hreply
  exact h.received hhistory (hbrought replies hreplies) hreply

theorem dispatch (h : Trail settings hint batch parcels start searches before)
    {result : Except Error (List (List Reply))}
    (hrun : (ClusterBatch.dispatch limit backoff parcels).run.run before = (result, after)) :
    Trail settings hint batch parcels start searches after ∧
      ∀ lists, result = .ok lists → ∀ replies ∈ lists, ∀ reply ∈ replies,
        Received start after reply := by
  obtain ⟨sent, hhistory, hdirectory, honly, hbrought⟩ := adds_dispatch limit backoff parcels before
  rw [hrun] at hhistory hdirectory hbrought
  refine ⟨h.send hdirectory hhistory fun t ht => .inl (honly t ht), ?_⟩
  intro lists hlists replies hreplies reply hreply
  exact h.received hhistory (brought_of_mem (hbrought lists hlists) hreplies) hreply

/-! ## Following redirects -/

/-- Searches are made because a slot has moved, at most one of them and none once there has been
one. -/
structure Spends (refreshed refreshed' : Bool) (searches : List Search) : Prop where
  moved : ∀ s ∈ searches, s.reason = .moved
  length_le : searches.length + (!refreshed').toNat ≤ (!refreshed).toNat

theorem Spends.nil {refreshed refreshed' : Bool} (h : refreshed = true → refreshed' = true) :
    Spends refreshed refreshed' [] where
  moved := by simp
  length_le := by cases refreshed <;> cases refreshed' <;> simp_all

theorem Spends.trans {a b c : Bool} {more : List Search} (h : Spends a b searches)
    (hmore : Spends b c more) : Spends a c (searches ++ more) where
  moved := List.forall_mem_append.2 ⟨h.moved, hmore.moved⟩
  length_le := by
    have hfirst := h.length_le
    have hsecond := hmore.length_le
    rw [List.length_append]
    omega

theorem Spends.weaken {a b : Bool} (h : Spends a b searches) : Spends a true searches where
  moved := h.moved
  length_le := by
    have hlength := h.length_le
    simp only [Bool.not_true, Bool.toNat_false]
    omega

theorem tryRefresh (h : Trail settings hint batch parcels start searches before)
    {redirect : Redirect} {result : Except Error Unit} (hadvised : Advised start before redirect)
    (hmoved : redirect.kind = .moved)
    (hrun : Discovery.tryRefresh.run.run before = (result, after)) :
    ∃ found, Trail settings hint batch parcels start (searches ++ [⟨.moved, found⟩]) after ∧
      before.history <+: after.history := by
  rw [Discovery.run_tryRefresh] at hrun
  cases hrun
  have hsearch : (Reason.moved.search settings).run.run before =
      ((Discovery.refresh.run.run before).1, (Discovery.refresh.run.run before).2) := rfl
  exact ⟨_, h.search ⟨redirect, hadvised, hmoved⟩ hsearch, Reason.history_search hsearch⟩

theorem heed (h : Trail settings hint batch parcels start searches before) {refreshed : Bool}
    {redirect : Redirect} {result : Except Error Unit} (hadvised : Advised start before redirect)
    (hrun : (Pipeline.heed refreshed redirect.kind).run.run before = (result, after)) :
    ∃ more, Trail settings hint batch parcels start (searches ++ more) after ∧
      before.history <+: after.history ∧
      Spends refreshed (refreshed || redirect.kind = .moved) more := by
  cases hkind : redirect.kind with
  | ask =>
    rw [hkind] at hrun
    cases hrun
    exact ⟨[], by simpa using h, List.prefix_rfl, .nil (by simp +contextual)⟩
  | moved =>
    rw [hkind] at hrun
    cases refreshed with
    | true =>
      cases hrun
      exact ⟨[], by simpa using h, List.prefix_rfl, .nil id⟩
    | false =>
      obtain ⟨found, htrail, hhistory⟩ := h.tryRefresh hadvised hkind hrun
      exact ⟨_, htrail, hhistory, by simp, by simp⟩

section Pipelines

omit [Network σ] in
theorem node_redirected (node : NodeAddress) (kind : RedirectKind) (command : Command) :
    (Pipeline.redirected node kind command).node = node := by cases kind <;> rfl

variable (hpipeline : batch.atomic = false)

include hpipeline

theorem hop (h : Trail settings hint batch parcels start searches before) {refreshed : Bool}
    {redirect : Redirect} {command : Command} {result : Except Error Reply}
    (hcommand : command ∈ batch.commands) (hadvised : Advised start before redirect)
    (hrun : (Pipeline.hop settings command refreshed redirect).run.run before = (result, after)) :
    ∃ more, Trail settings hint batch parcels start (searches ++ more) after ∧
      before.history <+: after.history ∧
      Spends refreshed (refreshed || redirect.kind = .moved) more ∧
      ∀ reply next, result = .ok reply → Redirect.ofReply? reply = some next →
        Advised start after next := by
  obtain ⟨e, hnode, rfl⟩ | ⟨node, _, hnode, hrun⟩ := Fallible.run_bind_cases hrun
  · obtain ⟨-, rfl⟩ := Fallible.run_ofExcept_iff.1 hnode
    exact ⟨[], by simpa using h, List.prefix_rfl, .nil (by simp +contextual), nofun⟩
  obtain ⟨hnamed, rfl⟩ := Fallible.run_ofExcept_iff.1 hnode
  obtain ⟨e, hheed, rfl⟩ | ⟨_, heeded, hheed, hrun⟩ := Fallible.run_bind_cases hrun
  · obtain ⟨more, htrail, hhistory, hspends⟩ := h.heed hadvised hheed
    exact ⟨more, htrail, hhistory, hspends, nofun⟩
  obtain ⟨more, htrail, hhistory, hspends⟩ := h.heed hadvised hheed
  have hposted :
      Redirected batch start heeded (Pipeline.redirected node redirect.kind command) := by
    refine ⟨redirect, hadvised.mono hhistory, ?_, ?_⟩
    · rw [hnamed, node_redirected]
    · rw [if_neg (by simp [hpipeline]), node_redirected]
      exact ⟨command, hcommand, rfl⟩
  obtain ⟨e, hexchange, rfl⟩ | ⟨replies, _, hexchange, hrun⟩ := Fallible.run_bind_cases hrun
  · obtain ⟨htrail, hlater, -⟩ := htrail.exchange (.inr hposted) hexchange
    exact ⟨more, htrail, hhistory.trans hlater, hspends, nofun⟩
  · obtain ⟨htrail, hlater, hreceived⟩ := htrail.exchange (.inr hposted) hexchange
    cases hrun
    refine ⟨more, htrail, hhistory.trans hlater, hspends, ?_⟩
    intro reply next hreply hnext
    cases hreply
    have hlast : replies.getLastD .null ∈ .null :: replies := List.getLastD_mem_cons
    obtain hnull | hmem := List.mem_cons.1 hlast
    · rw [hnull] at hnext
      cases hnext
    · exact ⟨_, hreceived replies rfl _ hmem, hnext⟩

/-- Whether a newer topology has been looked for once a command is concluded. After a failure
nothing more is done. -/
def refreshedAfter : Except Error (Outcome × Bool) → Bool
  | .ok concluded => concluded.2
  | .error _ => true

/-- The induction is on the redirects that may still be followed. -/
theorem follow (h : Trail settings hint batch parcels start searches before) {hops : Nat}
    {refreshed : Bool} {redirect : Redirect} {command : Command}
    {result : Except Error (Outcome × Bool)} (hcommand : command ∈ batch.commands)
    (hadvised : Advised start before redirect)
    (hrun : (Pipeline.follow settings command hops refreshed redirect).run.run before =
      (result, after)) :
    ∃ more, Trail settings hint batch parcels start (searches ++ more) after ∧
      before.history <+: after.history ∧ Spends refreshed (refreshedAfter result) more := by
  induction hops generalizing searches before refreshed redirect with
  | zero =>
    cases hrun
    exact ⟨[], by simpa using h, List.prefix_rfl, .nil fun _ => rfl⟩
  | succ hops ih =>
    obtain ⟨e, hhop, rfl⟩ | ⟨reply, middle, hhop, hrun⟩ := Fallible.run_bind_cases hrun
    · obtain ⟨more, htrail, hhistory, hspends, -⟩ := h.hop hpipeline hcommand hadvised hhop
      exact ⟨more, htrail, hhistory, hspends.weaken⟩
    obtain ⟨more, htrail, hhistory, hspends, hnext⟩ := h.hop hpipeline hcommand hadvised hhop
    cases hredirect : Redirect.ofReply? reply with
    | none =>
      simp only [hredirect] at hrun
      cases hrun
      exact ⟨more, htrail, hhistory, hspends⟩
    | some next =>
      simp only [hredirect] at hrun
      obtain ⟨later, hlater, hmore, hrest⟩ := ih htrail (hnext reply next rfl hredirect) hrun
      exact ⟨more ++ later, by simpa using hlater, hhistory.trans hmore, hspends.trans hrest⟩

omit [Network σ] in
/-- A redirect among some replies is advice that has come in. -/
def Advises (start session : Session σ) (reply : Reply) : Prop :=
  ∀ redirect, Redirect.ofReply? reply = some redirect → Advised start session redirect

theorem conclude (h : Trail settings hint batch parcels start searches before) {refreshed : Bool}
    {assignment : Assignment} {replies : List (NodeAddress × Reply)}
    {result : Except Error (Outcome × Bool)} (hcommand : assignment.command ∈ batch.commands)
    (hreplies : ∀ p ∈ replies, Advises start before p.2)
    (hrun : (Pipeline.conclude settings refreshed assignment replies).run.run before =
      (result, after)) :
    ∃ more, Trail settings hint batch parcels start (searches ++ more) after ∧
      before.history <+: after.history ∧ Spends refreshed (refreshedAfter result) more := by
  unfold Pipeline.conclude at hrun
  split at hrun
  · cases hrun
    exact ⟨[], by simpa using h, List.prefix_rfl, .nil id⟩
  · dsimp only at hrun
    split at hrun
    · next redirect hredirect =>
      refine h.follow hpipeline hcommand ?_ hrun
      cases replies with
      | nil => cases hredirect
      | cons first rest => exact hreplies first List.mem_cons_self redirect hredirect
    · cases hrun
      exact ⟨[], by simpa using h, List.prefix_rfl, .nil id⟩

theorem concludeAll (h : Trail settings hint batch parcels start searches before)
    {refreshed : Bool} {delivered : List (Assignment × List (NodeAddress × Reply))}
    {result : Except Error (List Outcome)}
    (hcommands : ∀ part ∈ delivered, part.1.command ∈ batch.commands)
    (hreplies : ∀ part ∈ delivered, ∀ p ∈ part.2, Advises start before p.2)
    (hrun : (Pipeline.concludeAll settings refreshed delivered).run.run before = (result, after)) :
    ∃ more, Trail settings hint batch parcels start (searches ++ more) after ∧
      Spends refreshed true more := by
  induction delivered generalizing searches before refreshed result with
  | nil =>
    cases hrun
    exact ⟨[], by simpa using h, .nil fun _ => rfl⟩
  | cons part rest ih =>
    obtain ⟨hcommand, hcommands⟩ := List.forall_mem_cons.1 hcommands
    obtain ⟨hreply, hreplies⟩ := List.forall_mem_cons.1 hreplies
    obtain ⟨e, hfirst, rfl⟩ | ⟨concluded, middle, hfirst, hrun⟩ := Fallible.run_bind_cases hrun
    · obtain ⟨more, htrail, -, hspends⟩ := h.conclude hpipeline hcommand hreply hfirst
      exact ⟨more, htrail, hspends.weaken⟩
    obtain ⟨more, htrail, hhistory, hspends⟩ := h.conclude hpipeline hcommand hreply hfirst
    have hlater : ∀ part ∈ rest, ∀ p ∈ part.2, Advises start middle p.2 :=
      fun part hpart p hp redirect hredirect =>
        (hreplies part hpart p hp redirect hredirect).mono hhistory
    obtain ⟨e, hrest, rfl⟩ | ⟨outcomes, _, hrest, hrun⟩ := Fallible.run_bind_cases hrun
    · obtain ⟨later, htrail, hspent⟩ := ih htrail hcommands hlater hrest
      exact ⟨more ++ later, by simpa using htrail, hspends.trans hspent⟩
    · cases hrun
      obtain ⟨later, htrail, hspent⟩ := ih htrail hcommands hlater hrest
      exact ⟨more ++ later, by simpa using htrail, hspends.trans hspent⟩

/-- Once commands have been assigned, a newer topology is looked for at most once. -/
theorem pipeline {assignments : List Assignment} {result : Except Error (List Outcome)}
    (h : Trail settings hint batch (Assignment.parcels assignments) start searches before)
    (hnodup : ∀ assignment ∈ assignments, assignment.nodes.Nodup)
    (hcommands : ∀ assignment ∈ assignments, assignment.command ∈ batch.commands)
    (hrun : (Pipeline.carryOut settings assignments).run.run before = (result, after)) :
    ∃ more, Trail settings hint batch (Assignment.parcels assignments) start (searches ++ more)
      after ∧ Spends false true more := by
  rw [Pipeline.carryOut_eq settings hnodup] at hrun
  obtain ⟨e, hdispatch, rfl⟩ | ⟨lists, answered, hdispatch, hrun⟩ := Fallible.run_bind_cases hrun
  · obtain ⟨htrail, -⟩ := h.dispatch hdispatch
    exact ⟨[], by simpa using htrail, .nil nofun⟩
  obtain ⟨htrail, hreceived⟩ := h.dispatch hdispatch
  have hadvises : ∀ part ∈ Assignment.delivered assignments lists, ∀ p ∈ part.2,
      Advises start answered p.2 := by
    intro part hpart p hp redirect hredirect
    obtain hnull | ⟨replies, hreplies, hmem⟩ := (Assignment.mem_delivered hpart).2 p hp
    · rw [hnull] at hredirect
      cases hredirect
    · exact ⟨p.2, hreceived lists rfl replies hreplies p.2 hmem, hredirect⟩
  exact htrail.concludeAll hpipeline
    (fun part hpart => hcommands _ (Assignment.mem_delivered hpart).1) hadvises hrun

end Pipelines

/-- Once a node has been chosen for a transaction, a newer topology is looked for at most once. -/
theorem transaction (htransaction : batch.atomic = true) {node : NodeAddress}
    {result : Except Error (List Outcome)}
    (h : Trail settings hint batch [Transaction.parcel node batch.commands] start searches before)
    (hrun : (Transaction.carryOut settings batch.commands node).run.run before =
      (result, after)) :
    ∃ more, Trail settings hint batch [Transaction.parcel node batch.commands] start
      (searches ++ more) after ∧ Spends false true more := by
  let parcel := Transaction.parcel node batch.commands
  have hfirst : parcel ∈ [parcel] ∨ Redirected batch start before parcel :=
    .inl (List.mem_singleton_self parcel)
  obtain ⟨e, hsubmit, rfl⟩ | ⟨replies, answered, hsubmit, hrun⟩ := Fallible.run_bind_cases hrun
  · obtain ⟨htrail, -⟩ := h.exchange hfirst hsubmit
    exact ⟨[], by simpa using htrail, .nil nofun⟩
  obtain ⟨htrail, -, hreceived⟩ := h.exchange hfirst hsubmit
  cases hmoved : Transaction.moved? batch.commands.length replies with
  | none =>
    simp only [hmoved, Transaction.run_settle] at hrun
    cases hrun
    exact ⟨[], by simpa using htrail, .nil nofun⟩
  | some redirect =>
    simp only [hmoved] at hrun
    obtain ⟨i, reply, -, hreply, ⟨hredirect, hkind⟩, -⟩ := Transaction.movedTo_of_moved? hmoved
    have hadvised : Advised start answered redirect :=
      ⟨reply, hreceived replies rfl reply (List.mem_of_getElem? hreply), hredirect⟩
    have hspends (found : Except Error Topology) : Spends false true [⟨.moved, found⟩] :=
      ⟨by simp, by simp⟩
    obtain ⟨e, hsearch, rfl⟩ | ⟨_, searched, hsearch, hrun⟩ := Fallible.run_bind_cases hrun
    · obtain ⟨found, htrail, -⟩ := htrail.tryRefresh hadvised hkind hsearch
      exact ⟨_, htrail, hspends found⟩
    obtain ⟨found, htrail, hlater⟩ := htrail.tryRefresh hadvised hkind hsearch
    refine ⟨_, ?_, hspends found⟩
    obtain ⟨e, hnode, rfl⟩ | ⟨target, _, hnode, hrun⟩ := Fallible.run_bind_cases hrun
    · obtain ⟨-, rfl⟩ := Fallible.run_ofExcept_iff.1 hnode
      exact htrail
    obtain ⟨hnamed, rfl⟩ := Fallible.run_ofExcept_iff.1 hnode
    have hposted : Redirected batch start searched (Transaction.parcel target batch.commands) := by
      refine ⟨redirect, hadvised.mono hlater, hnamed, ?_⟩
      rw [if_pos htransaction]
      exact ⟨hkind, rfl⟩
    obtain ⟨e, hagain, rfl⟩ | ⟨_, _, hagain, hrun⟩ := Fallible.run_bind_cases hrun
    · exact (htrail.exchange (.inr hposted) hagain).1
    · rw [Transaction.run_settle] at hrun
      cases hrun
      exact (htrail.exchange (.inr hposted) hagain).1

end Trail

end ClusterBatch
