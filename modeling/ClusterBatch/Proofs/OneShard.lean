import ClusterBatch.Proofs.RoutingRules
import ClusterBatch.Proofs.Transactions
import ClusterBatch.ScriptedCluster

/-!
# Clusters of one shard

Where a single node serves all slots, every command goes to that node, and in one frame. Unless the
node sends a command elsewhere, the client of the cluster then sends what a client of the node alone
sends, at the same times, and returns the same.

Main statement: `Client.execute_alone`.
-/

namespace ClusterBatch

variable {σ α β : Type}

/-! ## Exchanges in sessions that are alike -/

/-- Two sessions differ in nothing that an exchange depends on. -/
structure Alike (a b : Session σ) : Prop where
  nodes : a.nodes = b.nodes
  time : a.time = b.time
  jitter : a.jitter = b.jitter

/-- What an activity sends and returns is the same in sessions that are alike, and they stay so. -/
def Mirrors (activity : Activity σ α) : Prop :=
  ∀ a b : Session σ, Alike a b → (activity.run a).1 = (activity.run b).1 ∧
    Alike (activity.run a).2 (activity.run b).2 ∧ ∃ sent,
      (activity.run a).2.history = a.history ++ sent ∧
        (activity.run b).2.history = b.history ++ sent

namespace Mirrors

theorem pure (a : α) : Mirrors (Pure.pure a : Activity σ α) :=
  fun _ _ halike => ⟨rfl, halike, [], (List.append_nil _).symm, (List.append_nil _).symm⟩

theorem bind {activity : Activity σ α} {next : α → Activity σ β} (h : Mirrors activity)
    (hnext : ∀ a, Mirrors (next a)) : Mirrors (activity >>= next) := by
  intro a b halike
  obtain ⟨hresult, hlater, first, hfirst, hfirst'⟩ := h a b halike
  rcases hrun : activity.run a with ⟨result, a'⟩
  rcases hrun' : activity.run b with ⟨_, b'⟩
  rw [hrun, hrun'] at hresult hlater
  rw [hrun] at hfirst
  rw [hrun'] at hfirst'
  obtain rfl : result = _ := hresult
  obtain ⟨hfinal, hlast, second, hsecond, hsecond'⟩ := hnext result a' b' hlater
  have hnextRun : (activity >>= next).run a = (next result).run a' := by
    rw [StateT.run_bind, hrun]
    rfl
  have hnextRun' : (activity >>= next).run b = (next result).run b' := by
    rw [StateT.run_bind, hrun']
    rfl
  rw [hnextRun, hnextRun']
  refine ⟨hfinal, hlast, first ++ second, ?_, ?_⟩
  · rw [hsecond, hfirst, List.append_assoc]
  · rw [hsecond', hfirst', List.append_assoc]

theorem map (f : α → β) {activity : Activity σ α} (h : Mirrors activity) :
    Mirrors (f <$> activity) := by
  intro a b halike
  obtain ⟨hresult, hlater, hsent⟩ := h a b halike
  exact ⟨congrArg f hresult, hlater, hsent⟩

end Mirrors

namespace Parcel

theorem mirrors_pause (backoff : Backoff) (attempt : Nat) :
    Mirrors (Session.pause backoff attempt : Activity σ Unit) := by
  rintro ⟨nodes, time, _, _, _, jitter⟩ ⟨_, _, _, _, _, _⟩ ⟨rfl, rfl, rfl⟩
  exact ⟨rfl, ⟨rfl, rfl, rfl⟩, [], (List.append_nil _).symm, (List.append_nil _).symm⟩

variable [Network σ]

theorem mirrors_attempt (limit : Option Nat) (parcel : Parcel) :
    Mirrors (parcel.attempt limit : Activity σ _) := by
  rintro ⟨nodes, time, _, _, _, jitter⟩ ⟨_, _, _, _, _, _⟩ ⟨rfl, rfl, rfl⟩
  exact ⟨rfl, ⟨rfl, rfl, rfl⟩, [_], List.reverse_cons, List.reverse_cons⟩

theorem mirrors_exchangeWith (limit : Option Nat) (backoff : Backoff) (parcel : Parcel)
    (left : Nat) : Mirrors (parcel.exchangeWith limit backoff left : Activity σ _) := by
  induction left with
  | zero => exact mirrors_attempt limit parcel
  | succ left ih =>
    refine (mirrors_attempt limit parcel).bind fun result => ?_
    match result with
    | .error (.connection _) => exact (mirrors_pause _ _).bind fun _ => ih
    | .error (.undecodable _) => exact .pure _
    | .ok _ => exact .pure _

/-- An exchange goes the same way in sessions that are alike. -/
theorem mirrors_exchange (limit : Option Nat) (backoff : Backoff) (parcel : Parcel) :
    Mirrors (parcel.exchange limit backoff : Call σ _).run :=
  (mirrors_exchangeWith limit backoff parcel _).map _

end Parcel

/-! ## Routing -/

namespace Topology

def IsOneShard (topology : Topology) (node : NodeAddress) : Prop :=
  topology.shards = [⟨0, 16383, node, []⟩]

variable {topology : Topology} {node : NodeAddress} {slot : Nat}

theorem owner?_of_isOneShard (h : topology.IsOneShard node) (hslot : slot < Slot.count) :
    topology.owner? slot = some ⟨0, 16383, node, []⟩ := by
  have hle : slot ≤ 16383 := Nat.le_of_lt_succ hslot
  simp [owner?, show topology.shards = _ from h, Shard.contains, hle]

theorem IsOneShard.not_isEmpty (h : topology.IsOneShard node) : ¬topology.isEmpty := by
  simp [isEmpty, show topology.shards = _ from h]

theorem primaries_of_isOneShard (h : topology.IsOneShard node) : topology.primaries = [node] := by
  simp [primaries, show topology.shards = _ from h, distinct]

end Topology

/-- The caller does not say where commands without keys go, or says that this does not matter. -/
def Hint.IsOpen (hint : Option Hint) : Prop := hint = none ∨ hint = some .random

namespace Router

variable {topology : Topology} {node : NodeAddress} {hint : Option Hint} {slot : Nat}

theorem run_slotTarget_of_isOneShard (h : topology.IsOneShard node) (hslot : slot < Slot.count)
    (readOnly : Bool) (router : Router) :
    (slotTarget topology slot readOnly).run.run router = (.ok (.serving node), router) := by
  rw [run_slotTarget, Topology.owner?_of_isOneShard h hslot]
  simp [select]

theorem run_resolve_random (h : topology.IsOneShard node) (router : Router) :
    ∃ later, (resolve topology .random).run.run router = (.ok [node], later) := by
  have hdrawn : ∃ later, (randomPrimary topology).run.run router = (.ok node, later) := by
    unfold randomPrimary
    rw [Topology.primaries_of_isOneShard h]
    have hfirst : (router.draws.below 1).1 = 0 := Nat.mod_one _
    refine ⟨{ router with draws := (router.draws.below 1).2 }, Prod.ext ?_ rfl⟩
    change Except.ok ([node].getD (router.draws.below 1).1 node) = .ok node
    rw [hfirst]
    rfl
  obtain ⟨later, hdrawn⟩ := hdrawn
  exact ⟨later, Fallible.run_bind_of_ok hdrawn⟩

/-- Every command goes to the one node. -/
theorem run_route_of_isOneShard (h : topology.IsOneShard node) (hhint : Hint.IsOpen hint)
    (command : Command) (router : Router) :
    ∃ target later, (route topology command hint).run.run router = (.ok target, router) ∧
      target.isMultiNode = false ∧
      (resolve topology target).run.run router = (.ok [node], later) := by
  unfold route
  cases command.firstKey? with
  | some key =>
    have htarget := run_slotTarget_of_isOneShard h (Slot.ofKey_lt key) command.isReadOnly router
    exact ⟨.serving node, router, htarget, rfl, rfl⟩
  | none =>
    obtain ⟨later, hresolve⟩ := run_resolve_random h router
    obtain rfl | rfl := hhint
    · exact ⟨.random, later, rfl, rfl, hresolve⟩
    · exact ⟨.random, later, rfl, rfl, hresolve⟩

end Router

namespace Assignment

variable {topology : Topology} {node : NodeAddress} {hint : Option Hint}
  {commands : List Command} {assignments : List Assignment}

/-- A command goes to a node and to no other one. -/
structure GoesTo (node : NodeAddress) (command : Command) (assignment : Assignment) : Prop where
  command_eq : assignment.command = command
  nodes_eq : assignment.nodes = [node]
  single : assignment.target.isMultiNode = false

theorem run_ofCommands_of_isOneShard (h : topology.IsOneShard node) (hhint : Hint.IsOpen hint)
    (commands : List Command) (router : Router) :
    ∃ assignments later, (ofCommands topology hint commands).run.run router =
      (.ok assignments, later) ∧ List.Forall₂ (GoesTo node) commands assignments := by
  unfold ofCommands
  induction commands generalizing router with
  | nil => exact ⟨[], router, rfl, .nil⟩
  | cons command rest ih =>
    obtain ⟨target, later, htarget, hsingle, hnodes⟩ :=
      Router.run_route_of_isOneShard h hhint command router
    obtain ⟨assignments, last, hrest, hgo⟩ := ih later
    refine ⟨⟨command, target, [node]⟩ :: assignments, last, ?_, .cons ⟨rfl, rfl, hsingle⟩ hgo⟩
    have hfirst : (do
        let target ← Router.route topology command hint
        pure (⟨command, target, ← Router.resolve topology target⟩ : Assignment) :
          Routing Assignment).run.run router = (.ok ⟨command, target, [node]⟩, later) := by
      rw [Fallible.run_bind_of_ok htarget]
      exact Fallible.run_bind_of_ok hnodes
    rw [List.mapM_cons, Fallible.run_bind_of_ok hfirst, Fallible.run_bind_of_ok hrest]
    rfl

/-! ## One frame and its replies -/

theorem goesTo_of_mem (h : List.Forall₂ (GoesTo node) commands assignments) :
    ∀ assignment ∈ assignments, GoesTo node assignment.command assignment := by
  induction h with
  | nil => simp
  | cons hfirst _ ih =>
    exact List.forall_mem_cons.2 ⟨hfirst.command_eq ▸ hfirst, ih⟩

theorem encode_of_goesTo (h : List.Forall₂ (GoesTo node) commands assignments) :
    assignments.flatMap (·.command.encode) = commands.flatMap Command.encode := by
  induction h with
  | nil => rfl
  | cons hfirst _ ih => rw [List.flatMap_cons, List.flatMap_cons, ih, hfirst.command_eq]

theorem distinct_eq_singleton {nodes : List NodeAddress} (hne : nodes ≠ [])
    (h : ∀ other ∈ nodes, other = node) : distinct nodes = [node] := by
  cases nodes with
  | nil => exact absurd rfl hne
  | cons first rest =>
    obtain ⟨rfl, hrest⟩ := List.forall_mem_cons.1 h
    simpa [distinct] using hrest

theorem allNodes_of_goesTo (h : List.Forall₂ (GoesTo node) commands assignments)
    (hne : commands ≠ []) : allNodes assignments = [node] := by
  refine distinct_eq_singleton ?_ ?_
  · cases h with
    | nil => exact absurd rfl hne
    | cons hfirst _ => simp [hfirst.nodes_eq]
  · intro other hother
    obtain ⟨assignment, hmem, hother⟩ := List.mem_flatMap.1 hother
    simpa [(goesTo_of_mem h assignment hmem).nodes_eq] using hother

theorem nodup_of_goesTo (h : List.Forall₂ (GoesTo node) commands assignments) :
    ∀ assignment ∈ assignments, assignment.nodes.Nodup := fun assignment hmem =>
  (goesTo_of_mem h assignment hmem).nodes_eq ▸ List.nodup_singleton node

theorem atNode_of_goesTo (h : List.Forall₂ (GoesTo node) commands assignments)
    {some : List Assignment} (hsome : some ⊆ assignments) : atNode node some = some := by
  refine List.filter_eq_self.2 fun assignment hmem => ?_
  simp [(goesTo_of_mem h assignment (hsome hmem)).nodes_eq]

/-- All commands are sent in one frame. -/
theorem parcels_of_goesTo (h : List.Forall₂ (GoesTo node) commands assignments)
    (hne : commands ≠ []) :
    parcels assignments = [⟨node, commands.flatMap Command.encode, commands.length⟩] := by
  rw [parcels, allNodes_of_goesTo h hne, List.map_singleton, parcel,
    atNode_of_goesTo h (List.Subset.refl _), encode_of_goesTo h, h.length_eq]

/-- The replies to that frame are handed to the commands in order. -/
theorem delivered_of_goesTo (h : List.Forall₂ (GoesTo node) commands assignments)
    {replies : List Reply} (hlength : replies.length = commands.length) :
    delivered assignments [replies] =
      (assignments.zip replies).map fun p => (p.1, [(node, p.2)]) := by
  have htotal : replies.length = assignments.length := hlength.trans h.length_eq
  refine List.ext_getElem (by simp [length_delivered, htotal]) fun i hi _ => ?_
  rw [length_delivered] at hi
  have hne : commands ≠ [] := by
    rintro rfl
    cases h
    exact absurd hi (Nat.not_lt_zero i)
  have hplace : place assignments node i = i := by
    rw [place, atNode_of_goesTo h (List.take_subset i assignments), List.length_take]
    exact Nat.min_eq_left (Nat.le_of_lt hi)
  have hnodes := (goesTo_of_mem h _ (List.getElem_mem hi)).nodes_eq
  have hpart := delivered_getElem? [replies] (List.getElem?_eq_getElem hi)
  rw [hnodes, List.map_singleton, allNodes_of_goesTo h hne, hplace] at hpart
  obtain ⟨_, hpart⟩ := List.getElem?_eq_some_iff.1 hpart
  rw [hpart, List.getElem_map, List.getElem_zip]
  simp [htotal, hi]

end Assignment

namespace Pipeline

open Assignment

variable [Network σ] {settings : Settings} {node : NodeAddress} {commands : List Command}
  {assignments : List Assignment} {session answered : Session σ}

/-- Replies without a redirect are what the commands come to, and nothing more is sent. -/
theorem run_concludeAll_of_goesTo (h : List.Forall₂ (GoesTo node) commands assignments)
    {replies : List Reply} (hlength : replies.length = commands.length)
    (hstays : ∀ reply ∈ replies, Redirect.ofReply? reply = none) (refreshed : Bool) :
    (concludeAll settings refreshed (delivered assignments [replies])).run.run session =
      (.ok (replies.map Outcome.ofReply), session) := by
  have hstay : ∀ part ∈ (assignments.zip replies).map fun p => (p.1, [(node, p.2)]),
      part.1.target.isMultiNode = false →
        Redirect.ofReply? ((part.2.map Prod.snd).headD .null) = none := by
    intro part hpart _
    obtain ⟨p, hp, rfl⟩ := List.mem_map.1 hpart
    exact hstays p.2 (List.of_mem_zip hp).2
  rw [delivered_of_goesTo h hlength, run_concludeAll_of_stays hstay, List.map_map]
  have hsettled : (assignments.zip replies).map (settled ∘ fun p => (p.1, [(node, p.2)])) =
      (assignments.zip replies).map (Outcome.ofReply ∘ Prod.snd) := by
    refine List.map_congr_left fun p hp => ?_
    have hsingle := (goesTo_of_mem h p.1 (List.of_mem_zip hp).1).single
    exact if_neg (by simp [hsingle])
  rw [hsettled, ← List.map_map, List.map_snd_zip (by rw [hlength, h.length_eq])]

theorem run_onNode {arrived : Except Error (List Reply)}
    (hexchange : ((⟨node, commands.flatMap Command.encode, commands.length⟩ : Parcel).exchange
      settings.replyLimit settings.backoff).run.run session = (arrived, answered)) :
    (onNode settings node commands).run.run session =
      (arrived.map (List.map Outcome.ofReply), answered) := by
  rw [onNode, bind_pure_comp, Fallible.run_map, hexchange]

/-- Commands that go to one node are carried out by one exchange. -/
theorem run_carryOut_of_goesTo (h : List.Forall₂ (GoesTo node) commands assignments)
    (hne : commands ≠ []) {arrived : Except Error (List Reply)}
    (hexchange : ((⟨node, commands.flatMap Command.encode, commands.length⟩ : Parcel).exchange
      settings.replyLimit settings.backoff).run.run session = (arrived, answered))
    (hstays : ∀ replies, arrived = .ok replies → replies.length = commands.length ∧
      ∀ reply ∈ replies, Redirect.ofReply? reply = none) :
    (carryOut settings assignments).run.run session =
      (arrived.map (List.map Outcome.ofReply), answered) := by
  rw [carryOut_eq settings (nodup_of_goesTo h), parcels_of_goesTo h hne]
  cases arrived with
  | error e =>
    exact Fallible.run_bind_of_error (Fallible.run_bind_of_error hexchange)
  | ok replies =>
    obtain ⟨hlength, hreplies⟩ := hstays replies rfl
    have hdispatch : (dispatch settings.replyLimit settings.backoff
        [⟨node, commands.flatMap Command.encode, commands.length⟩]).run.run session =
          (.ok [replies], answered) := Fallible.run_bind_of_ok hexchange
    rw [Fallible.run_bind_of_ok hdispatch]
    exact run_concludeAll_of_goesTo h hlength hreplies false

end Pipeline

namespace Transaction

variable [Network σ] {settings : Settings} {node : NodeAddress} {commands : List Command}
  {topology : Topology} {hint : Option Hint} {session answered : Session σ}

omit [Network σ] in
theorem lt_of_commonSlot {slot : Nat} (h : commonSlot commands = .ok (some slot)) :
    slot < Slot.count := by
  unfold commonSlot at h
  split at h
  · cases h
  · next first rest hslots =>
    split at h <;> cases h
    have hmem : slot ∈ (commands.flatMap Command.keys).map Slot.ofKey := by simp [hslots]
    obtain ⟨key, -, rfl⟩ := List.mem_map.1 hmem
    exact Slot.ofKey_lt key

/-- Every transaction goes to the one node. -/
theorem run_route_of_isOneShard (h : topology.IsOneShard node) (hhint : Hint.IsOpen hint)
    {slot : Option Nat} (hslot : commonSlot commands = .ok slot) (router : Router) :
    ∃ later, (route slot hint topology).run.run router = (.ok node, later) := by
  cases slot with
  | some slot =>
    rw [run_route, Topology.owner?_of_isOneShard h (lt_of_commonSlot hslot)]
    exact ⟨router, rfl⟩
  | none =>
    obtain ⟨later, hresolve⟩ := Router.run_resolve_random h router
    obtain rfl | rfl := hhint
    · exact ⟨later, Fallible.run_bind_of_ok hresolve⟩
    · exact ⟨later, Fallible.run_bind_of_ok hresolve⟩

/-- What a transaction comes to, given what has come back for it. -/
def settled (commands : List Command) (arrived : Except Error (List Reply)) :
    Except Error (List Outcome) :=
  arrived.bind fun replies => (outcomes commands.length replies).mapError .protocol

theorem run_onNode {arrived : Except Error (List Reply)}
    (hsubmit : (submit settings node commands).run.run session = (arrived, answered)) :
    (onNode settings node commands).run.run session = (settled commands arrived, answered) := by
  cases arrived with
  | error e => exact Fallible.run_bind_of_error hsubmit
  | ok replies => exact (Fallible.run_bind_of_ok hsubmit).trans (run_settle commands replies)

/-- A transaction that is not sent elsewhere is carried out by one exchange. -/
theorem run_carryOut_of_stays {arrived : Except Error (List Reply)}
    (hsubmit : (submit settings node commands).run.run session = (arrived, answered))
    (hstays : ∀ replies, arrived = .ok replies →
      ∀ reply ∈ replies, Redirect.ofReply? reply = none) :
    (carryOut settings commands node).run.run session =
      (settled commands arrived, answered) := by
  unfold carryOut
  cases arrived with
  | error e => exact Fallible.run_bind_of_error hsubmit
  | ok replies =>
    have hmoved : moved? commands.length replies = none := by
      refine moved?_eq_none_iff.2 fun i reply redirect _ hreply hmoves => ?_
      cases (hstays replies rfl reply (List.mem_of_getElem? hreply)).symm.trans hmoves.1
    rw [Fallible.run_bind_of_ok hsubmit]
    simp only [hmoved]
    exact run_settle commands replies

end Transaction

namespace Transmission

def replies (transmission : Transmission) : List Reply := transmission.result.toOption.getD []

/-- No reply sends a command elsewhere. -/
def Stays (transmission : Transmission) : Prop :=
  ∀ reply ∈ transmission.replies, Redirect.ofReply? reply = none

instance (transmission : Transmission) : Decidable transmission.Stays :=
  inferInstanceAs (Decidable (∀ reply ∈ transmission.replies, Redirect.ofReply? reply = none))

end Transmission

/-! ## Two clients -/

/-- A run in one session and a run in another one send the same, all of it to one node, and return
the same. -/
structure Coincide (node : NodeAddress) (session alone : Session σ) (sent : List Transmission)
    (run run' : Except Error α × Session σ) : Prop where
  result : run.1 = run'.1
  history : run.2.history = session.history ++ sent
  history' : run'.2.history = alone.history ++ sent
  node_eq : ∀ t ∈ sent, t.parcel.node = node
  alike : Alike run.2 run'.2

/-- What is made of equal results is equal. -/
theorem Coincide.map {node : NodeAddress} {session alone : Session σ} {sent : List Transmission}
    {run run' : Except Error α × Session σ} (f : Except Error α → Except Error β)
    (h : Coincide node session alone sent run run') :
    Coincide node session alone sent (f run.1, run.2) (f run'.1, run'.2) :=
  { h with result := congrArg f h.result }

variable [Network σ] {settings other : Settings} {hint : Option Hint} {node : NodeAddress}
  {session alone : Session σ}

/-- One exchange, after a decision about routing in only one of the sessions. -/
theorem Parcel.exchange_coincide (limit : Option Nat) (backoff : Backoff) (parcel : Parcel)
    (halike : Alike session alone) (router : Router) :
    let run := (parcel.exchange limit backoff : Call σ _).run.run
    let planned := { session with router := router }
    ∃ sent, Coincide parcel.node session alone sent (run planned) (run alone) ∧
      ((∀ t ∈ sent, t.Stays) → ∀ replies, (run planned).1 = .ok replies →
        replies.length = parcel.count ∧ ∀ reply ∈ replies, Redirect.ofReply? reply = none) := by
  intro run planned
  have hplanned : Alike planned alone := ⟨halike.nodes, halike.time, halike.jitter⟩
  obtain ⟨hresult, hlater, sent, hhistory, hhistory'⟩ :=
    parcel.mirrors_exchange limit backoff planned alone hplanned
  obtain ⟨_, hadded, -, honly, hbrought⟩ := parcel.adds_exchange limit backoff planned
  obtain rfl : sent = _ := List.append_cancel_left (hhistory.symm.trans hadded)
  have hnode : ∀ t ∈ sent, t.parcel.node = parcel.node := fun t ht => congrArg _ (honly t ht)
  refine ⟨sent, ⟨hresult, hhistory, hhistory', hnode, hlater⟩, fun hstays replies hreplies => ?_⟩
  obtain ⟨t, ht, hbrings⟩ := hbrought replies hreplies
  have hall : t.replies = replies := by
    rw [Transmission.replies, hbrings]
    rfl
  exact ⟨honly t ht ▸ Transmission.length_of_result hbrings, hall ▸ hstays t ht⟩

/-- Two calls make the same of what one exchange brings. One of them makes a decision about routing
first, and only knows what to make of replies that send no command elsewhere. -/
theorem Coincide.of_exchange (settings : Settings) (parcel : Parcel)
    {call direct : Call σ α} (f : Except Error (List Reply) → Except Error α)
    (halike : Alike session alone) (router : Router)
    (hcall : ∀ arrived answered,
      (parcel.exchange settings.replyLimit settings.backoff).run.run
        { session with router := router } = (arrived, answered) →
      (∀ replies, arrived = .ok replies → replies.length = parcel.count ∧
        ∀ reply ∈ replies, Redirect.ofReply? reply = none) →
      call.run.run session = (f arrived, answered))
    (hdirect : ∀ arrived answered,
      (parcel.exchange settings.replyLimit settings.backoff).run.run alone = (arrived, answered) →
      direct.run.run alone = (f arrived, answered))
    (hstays : ∀ t ∈ alone.since (direct.run.run alone).2, t.Stays) :
    ∃ sent, Coincide parcel.node session alone sent (call.run.run session)
      (direct.run.run alone) := by
  obtain ⟨sent, hcoincide, hreplies⟩ :=
    parcel.exchange_coincide settings.replyLimit settings.backoff halike router
  rw [hdirect _ _ rfl] at hstays ⊢
  have hstays : ∀ t ∈ sent, t.Stays := Session.since_eq hcoincide.history' ▸ hstays
  rw [hcall _ _ rfl (hreplies hstays)]
  exact ⟨sent, hcoincide.map f⟩

section Batches

variable {commands : List Command} (hlimit : settings.replyLimit = other.replyLimit)
  (hbackoff : settings.backoff = other.backoff)
  (hshard : session.directory.current.IsOneShard node) (hhint : Hint.IsOpen hint)
  (halike : Alike session alone)

include hlimit hbackoff hshard hhint halike

theorem Pipeline.coincide (hne : commands ≠ [])
    (hstays : ∀ t ∈ alone.since ((onNode other node commands).run.run alone).2, t.Stays) :
    ∃ sent, Coincide node session alone sent
      ((onCluster settings hint commands).run.run session)
      ((onNode other node commands).run.run alone) := by
  obtain ⟨assignments, later, hassign, hgo⟩ :=
    Assignment.run_ofCommands_of_isOneShard hshard hhint commands session.router
  have hassigned : (assign settings hint commands).run.run session =
      (.ok assignments, { session with router := later }) :=
    Discovery.run_routed_of_current hshard.not_isEmpty hassign
  let parcel : Parcel := ⟨node, commands.flatMap Command.encode, commands.length⟩
  refine Coincide.of_exchange settings parcel (Except.map (List.map Outcome.ofReply)) halike later
    ?_ ?_ hstays
  · intro arrived answered hexchange hreplies
    rw [onCluster_eq, Fallible.run_bind_of_ok hassigned]
    exact run_carryOut_of_goesTo hgo hne hexchange hreplies
  · intro arrived answered hexchange
    rw [hlimit, hbackoff] at hexchange
    exact run_onNode hexchange

theorem Transaction.coincide
    (hslot : ∀ a ∈ keySlots commands, ∀ b ∈ keySlots commands, a = b)
    (hstays : ∀ t ∈ alone.since ((onNode other node commands).run.run alone).2, t.Stays) :
    ∃ sent, Coincide node session alone sent
      ((onCluster settings hint commands).run.run session)
      ((onNode other node commands).run.run alone) := by
  obtain ⟨slot, hslot⟩ := exists_commonSlot hslot
  obtain ⟨later, hroute⟩ := run_route_of_isOneShard hshard hhint hslot session.router
  have hslotted : (commonSlot commands : Call σ _).run.run session = (.ok slot, session) :=
    Fallible.run_ofExcept_iff.2 ⟨hslot, rfl⟩
  have hrouted : (Discovery.routed settings (route slot hint)).run.run session =
      (.ok node, { session with router := later }) :=
    Discovery.run_routed_of_current hshard.not_isEmpty hroute
  refine Coincide.of_exchange settings (parcel node commands) (settled commands) halike later
    ?_ ?_ hstays
  · intro arrived answered hsubmit hreplies
    rw [onCluster_eq, Fallible.run_bind_of_ok hslotted, Fallible.run_bind_of_ok hrouted]
    exact run_carryOut_of_stays hsubmit fun replies harrived => (hreplies replies harrived).2
  · intro arrived answered hsubmit
    rw [hlimit, hbackoff] at hsubmit
    exact run_onNode hsubmit

end Batches

namespace Client

/-- On a cluster of one shard, a batch comes to what it comes to on the node of that shard alone:
the same is sent at the same times, and the same is returned. The hint leaves the node open, the
keys of a transaction share a slot, and the node sends no command elsewhere. How the read policy
is set does not matter. -/
theorem execute_alone {batch : Batch} (hlimit : settings.replyLimit = other.replyLimit)
    (hbackoff : settings.backoff = other.backoff)
    (hshard : session.directory.current.IsOneShard node) (hhint : Hint.IsOpen hint)
    (hslot : batch.atomic = true → ∀ a ∈ Transaction.keySlots batch.commands,
      ∀ b ∈ Transaction.keySlots batch.commands, a = b)
    (halike : Alike session alone)
    (hstays : ∀ t ∈ alone.since
      (((⟨other, .standalone node⟩ : Client).execute batch hint).run.run alone).2, t.Stays) :
    ∃ sent, Coincide node session alone sent
      (((cluster settings).execute batch hint).run.run session)
      (((⟨other, .standalone node⟩ : Client).execute batch hint).run.run alone) := by
  obtain ⟨atomic, commands⟩ := batch
  cases commands with
  | nil =>
    exact ⟨[], rfl, (List.append_nil _).symm, (List.append_nil _).symm, nofun, halike⟩
  | cons command rest =>
    cases atomic with
    | false =>
      exact Pipeline.coincide hlimit hbackoff hshard hhint halike (List.cons_ne_nil _ _) hstays
    | true => exact Transaction.coincide hlimit hbackoff hshard hhint halike (hslot rfl) hstays

/-- A transaction and a pipeline with keys that share a hash tag. The connection is lost with the
first frame, which is sent again. -/
theorem execute_alone_retried :
    let node : NodeAddress := ⟨"a", 1⟩
    let nodes : ScriptedCluster :=
      ⟨[{ address := node, script := [{ response := .failure ⟨.refused, "busy"⟩ }] }]⟩
    let session : Session ScriptedCluster :=
      { nodes, directory := { current := ⟨4, [⟨0, 16383, node, []⟩]⟩ }
        router := { policy := .randomReplica } }
    let alone : Session ScriptedCluster := { nodes, router := { policy := .primary } }
    let settings : Settings := { readPolicy := .randomReplica }
    let commands : List Command := [⟨"SET", [.text "\x7bx\x7d1", .text "v"]⟩, ⟨"GET", [.text "x"]⟩]
    let onCluster (atomic : Bool) :=
      ((cluster settings).execute ⟨atomic, commands⟩ (some .random)).run.run session
    let onNode (atomic : Bool) :=
      ((⟨{}, .standalone node⟩ : Client).execute ⟨atomic, commands⟩ (some .random)).run.run alone
    (onNode true).1.isOk ∧ (onNode true).2.log.length = 2 ∧ (onNode false).1.isOk ∧
      (∃ sent, Coincide node session alone sent (onCluster true) (onNode true)) ∧
      ∃ sent, Coincide node session alone sent (onCluster false) (onNode false) := by
  intro node nodes session alone settings commands onCluster onNode
  have hstays : ∀ t ∈ alone.since (onNode true).2, t.Stays := by decide +kernel
  have hstays' : ∀ t ∈ alone.since (onNode false).2, t.Stays := by decide +kernel
  have hslot : ∀ a ∈ Transaction.keySlots commands, ∀ b ∈ Transaction.keySlots commands, a = b := by
    decide +kernel
  have halike : Alike session alone := ⟨rfl, rfl, rfl⟩
  refine ⟨by decide +kernel, by decide +kernel, by decide +kernel, ?_, ?_⟩
  · exact execute_alone rfl rfl rfl (.inr rfl) (fun _ => hslot) halike hstays
  · exact execute_alone rfl rfl rfl (.inr rfl) nofun halike hstays'

end Client

end ClusterBatch
