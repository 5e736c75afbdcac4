import ClusterBatch.Proofs.AddressText
import ClusterBatch.Proofs.Demultiplexing
import ClusterBatch.Proofs.RoutingRules

/-!
# Broadcasts

A command without keys goes to all primaries or to all nodes if the hint says so. At each node it
shares a frame with other commands of the pipeline. The replies to it are gathered in the order of
the topology: in a map from the nodes to what they replied, unless a node rejects the command. A
redirect counts as a rejection here, and nothing is sent because of it.

Main statement: `Pipeline.onCluster_broadcasts`.
-/

namespace ClusterBatch

/-- The nodes that a hint for several nodes addresses: the primaries, shard by shard, and behind all
of them the replicas. A node may occur several times. -/
def Hint.addressees (topology : Topology) : Hint → List NodeAddress
  | .allPrimaries => topology.shards.map Shard.primary
  | .allNodes => topology.shards.map Shard.primary ++ topology.shards.flatMap Shard.replicas
  | _ => []

namespace Reply

/-- The key under which the reply of a node is kept. -/
def ofAddress (node : NodeAddress) : Reply := .bulk (Utf8.encode node.text)

theorem ofAddress_injective : Function.Injective ofAddress := by
  intro one other h
  exact NodeAddress.text_injective (Utf8.encode_injective (Reply.bulk.inj h))

theorem isError_eq_false_iff {reply : Reply} :
    reply.isError = false ↔ reply.errorMessage? = none := by
  rw [isError, Option.isSome_eq_false_iff, Option.isNone_iff_eq_none]

end Reply

namespace Outcome

variable {replies : List (NodeAddress × Reply)}

theorem gather_eq_success_iff {reply : Reply} :
    gather replies = .success reply ↔ (∀ p ∈ replies, p.2.isError = false) ∧
      reply = .map (replies.map fun p => (.ofAddress p.1, p.2)) := by
  have hnone : replies.findSome? (·.2.errorMessage?) = none ↔
      ∀ p ∈ replies, p.2.isError = false := by
    simp only [List.findSome?_eq_none_iff, Reply.isError_eq_false_iff]
  rw [← hnone]
  unfold gather
  split
  · next message hmessage => simp [hmessage]
  · next hsound =>
    rw [Outcome.success.injEq, eq_comm]
    exact (and_iff_right hsound).symm

theorem gather_eq_failure_iff {error : ServerError} :
    gather replies = .failure error ↔ ∃ before first message after,
      replies = before ++ first :: after ∧ (∀ p ∈ before, p.2.isError = false) ∧
        first.2.errorMessage? = some message ∧ error = .ofLine message := by
  have hfirst (message : Bytes) : replies.findSome? (·.2.errorMessage?) = some message ↔
      ∃ before first after, replies = before ++ first :: after ∧
        first.2.errorMessage? = some message ∧ ∀ p ∈ before, p.2.isError = false := by
    simp only [List.findSome?_eq_some_iff, Reply.isError_eq_false_iff]
  constructor
  · intro h
    unfold gather at h
    split at h
    · next message hmessage =>
      cases h
      obtain ⟨before, first, after, hreplies, hrejects, hbefore⟩ := (hfirst message).1 hmessage
      exact ⟨before, first, message, after, hreplies, hbefore, hrejects, rfl⟩
    · cases h
  · rintro ⟨before, first, message, after, hreplies, hbefore, hrejects, rfl⟩
    have hmessage := (hfirst message).2 ⟨before, first, after, hreplies, hrejects, hbefore⟩
    simp only [gather, hmessage]

/-- The outcome of a command that was sent to several nodes, with the replies of these nodes in
order: a map of all of them if none is an error, and otherwise the first one that is. -/
structure Aggregates (addressees : List NodeAddress) (received : NodeAddress → Reply → Prop)
    (replies : List (NodeAddress × Reply)) (outcome : Outcome) : Prop where
  listsOnce : ListsOnce addressees (replies.map Prod.fst)
  own : ∀ p ∈ replies, received p.1 p.2
  keys_nodup : (replies.map fun p => Reply.ofAddress p.1).Nodup
  success_iff : ∀ reply, outcome = .success reply ↔ (∀ p ∈ replies, p.2.isError = false) ∧
    reply = .map (replies.map fun p => (.ofAddress p.1, p.2))
  failure_iff : ∀ error, outcome = .failure error ↔ ∃ before first message after,
    replies = before ++ first :: after ∧ (∀ p ∈ before, p.2.isError = false) ∧
      first.2.errorMessage? = some message ∧ error = .ofLine message

theorem aggregates_gather {addressees : List NodeAddress} {received : NodeAddress → Reply → Prop}
    (hlists : ListsOnce addressees (replies.map Prod.fst))
    (hown : ∀ p ∈ replies, received p.1 p.2) :
    Aggregates addressees received replies (gather replies) where
  listsOnce := hlists
  own := hown
  keys_nodup := by
    have hkeys := hlists.nodup.map Reply.ofAddress_injective
    rwa [List.map_map] at hkeys
  success_iff _ := gather_eq_success_iff
  failure_iff _ := gather_eq_failure_iff

end Outcome

namespace Assignment

variable {topology : Topology} {hint : Hint} {commands : List Command}
  {assignments : List Assignment}

/-- How a command is assigned if the hint is for several nodes: without keys to all of these nodes,
and with keys to one node. -/
structure Broadcasts (topology : Topology) (hint : Hint) (command : Command)
    (assignment : Assignment) : Prop where
  command_eq : assignment.command = command
  nodup : assignment.nodes.Nodup
  keyless_iff : command.keys = [] ↔ assignment.target.isMultiNode = true
  listsOnce : command.keys = [] → ListsOnce (hint.addressees topology) assignment.nodes

theorem broadcasts_of_ofCommands {router after : Router}
    (hhint : hint = .allPrimaries ∨ hint = .allNodes)
    (h : (ofCommands topology (some hint) commands).run.run router = (.ok assignments, after)) :
    List.Forall₂ (Broadcasts topology hint) commands assignments := by
  refine Fallible.forall₂_of_mapM ?_ h
  intro command router assignment after h
  obtain ⟨target, _, htarget, h⟩ := Fallible.run_bind_eq_ok.1 h
  obtain ⟨nodes, _, hnodes, h⟩ := Fallible.run_bind_eq_ok.1 h
  cases h
  obtain ⟨hnodup, -⟩ := nodup_of_resolve hnodes
  unfold Router.route Command.firstKey? at htarget
  cases hkeys : command.keys with
  | cons key rest =>
    simp only [hkeys, List.head?_cons, Router.run_slotTarget] at htarget
    split at htarget
    · cases htarget
      exact ⟨rfl, hnodup, by simp [hkeys, Target.isMultiNode], by simp [hkeys]⟩
    · cases htarget
  | nil =>
    rw [hkeys] at htarget
    rcases hhint with rfl | rfl
    all_goals
      cases htarget
      obtain rfl := eq_of_ofNodes hnodes
      exact ⟨rfl, hnodup, by simp [hkeys, Target.isMultiNode], fun _ => listsOnce_distinct _⟩

theorem broadcasts_of_mem {assignment : Assignment}
    (h : List.Forall₂ (Broadcasts topology hint) commands assignments)
    (hmem : assignment ∈ assignments) : Broadcasts topology hint assignment.command assignment := by
  obtain ⟨i, hassignment⟩ := List.getElem?_of_mem hmem
  obtain ⟨command, -, hbroadcasts⟩ := Fallible.exists_getElem?_of_forall₂ h.flip hassignment
  exact hbroadcasts.command_eq ▸ hbroadcasts

end Assignment

namespace Pipeline

variable {σ : Type} [Network σ] {settings : Settings} {refreshed : Bool} {hint : Hint}
  {commands : List Command} {delivered : List (Assignment × List (NodeAddress × Reply))}
  {session after final : Session σ} {outcomes : List Outcome}

theorem gather_of_concludeAll {assignment : Assignment} {replies : List (NodeAddress × Reply)}
    {i : Nat}
    (h : (concludeAll settings refreshed delivered).run.run session = (.ok outcomes, after))
    (hpart : delivered[i]? = some (assignment, replies))
    (hmulti : assignment.target.isMultiNode = true) : outcomes[i]? = some (.gather replies) := by
  obtain ⟨outcome, houtcome, _, _, _, _, hconclude⟩ :=
    Fallible.exists_getElem?_of_forall₂ (conclude_of_concludeAll h) hpart
  simp only [conclude, hmulti] at hconclude
  cases hconclude
  exact houtcome

/-- Commands whose replies are gathered change nothing when they are concluded, and nothing that
the others come to depends on them. -/
theorem concludeAll_filter
    (h : (concludeAll settings refreshed delivered).run.run session = (.ok outcomes, after)) :
    ∃ others, others.Sublist outcomes ∧
      (concludeAll settings refreshed
        (delivered.filter fun part => !part.1.target.isMultiNode)).run.run session =
          (.ok others, after) := by
  induction delivered generalizing refreshed session outcomes with
  | nil =>
    cases h
    exact ⟨[], .slnil, rfl⟩
  | cons part rest ih =>
    obtain ⟨⟨outcome, refreshed'⟩, middle, hfirst, h⟩ := Fallible.run_bind_eq_ok.1 h
    obtain ⟨later, _, hrest, h⟩ := Fallible.run_bind_eq_ok.1 h
    cases h
    obtain ⟨others, hothers, hfiltered⟩ := ih hrest
    cases hmulti : part.1.target.isMultiNode with
    | true =>
      simp only [conclude, hmulti] at hfirst
      cases hfirst
      exact ⟨others, hothers.cons _, by simpa [hmulti] using hfiltered⟩
    | false =>
      refine ⟨outcome :: others, hothers.cons_cons outcome, ?_⟩
      rw [List.filter_cons_of_pos (by simp [hmulti])]
      refine Fallible.run_bind_eq_ok.2 ⟨_, _, hfirst, ?_⟩
      exact Fallible.run_bind_eq_ok.2 ⟨_, _, hfiltered, rfl⟩

/-- What becomes of a pipeline whose hint is for several nodes, once its commands have been assigned
and the replies `lists` are there. -/
structure Broadcast (settings : Settings) (hint : Hint) (commands : List Command)
    (assignments : List Assignment) (lists : List (List Reply)) (planned answered final : Session σ)
    (outcomes : List Outcome) : Prop where
  command_eq : assignments.map Assignment.command = commands
  parcel_eq : ∀ t ∈ planned.since answered, t.parcel = Assignment.parcel assignments t.node
  /-- A command without keys goes to every node that the hint addresses in the topology of the plan,
  and the replies at its place in their frames are gathered. -/
  aggregates : ∀ {i command}, commands[i]? = some command → command.keys = [] →
    ∃ replies outcome, outcomes[i]? = some outcome ∧
      Outcome.Aggregates (hint.addressees planned.directory.current)
        (Assignment.ReceivedAt assignments (planned.since answered) i) replies outcome
  /-- All that is done when the replies are there is done for the commands with keys. -/
  others : ∃ others, others.Sublist outcomes ∧
    (concludeAll settings false ((Assignment.delivered assignments lists).filter
      (·.1.command.keys ≠ []))).run.run answered = (.ok others, final)

/-- Commands without keys go to all primaries or to all nodes, and their outcomes are made of the
replies of these nodes. Redirects among these are not followed. -/
theorem onCluster_broadcasts (hhint : hint = .allPrimaries ∨ hint = .allNodes)
    (hrun : (onCluster settings (some hint) commands).run.run session = (.ok outcomes, final)) :
    ∃ assignments planned lists answered,
      (assign settings (some hint) commands).run.run session = (.ok assignments, planned) ∧
      (dispatch settings.replyLimit settings.backoff (Assignment.parcels assignments)).run.run
        planned = (.ok lists, answered) ∧
      Broadcast settings hint commands assignments lists planned answered final outcomes := by
  rw [onCluster_eq] at hrun
  obtain ⟨assignments, planned, hassign, hrun⟩ := Fallible.run_bind_eq_ok.1 hrun
  obtain ⟨router, hplan⟩ := Discovery.run_routed hassign
  have hassigned := Assignment.broadcasts_of_ofCommands hhint hplan
  have hnodup : ∀ assignment ∈ assignments, assignment.nodes.Nodup :=
    fun _ hmem => (Assignment.broadcasts_of_mem hassigned hmem).nodup
  rw [carryOut_eq settings hnodup] at hrun
  obtain ⟨lists, answered, hdispatch, hconclude⟩ := Fallible.run_bind_eq_ok.1 hrun
  obtain ⟨sent, hhistory, -, honly, hbrought⟩ := adds_dispatch settings.replyLimit
    settings.backoff (Assignment.parcels assignments) planned
  rw [hdispatch] at hhistory hbrought
  refine ⟨assignments, planned, lists, answered, hassign, hdispatch, ?_, ?_, ?_, ?_⟩
  · refine List.forall₂_eq_eq_eq ▸ List.forall₂_map_left_iff.2 ?_
    exact hassigned.flip.imp fun _ _ hbroadcasts => hbroadcasts.command_eq
  · rw [Session.since_eq hhistory]
    exact fun t ht => Assignment.parcel_of_mem_parcels (honly t ht)
  · intro i command hcommand hkeys
    rw [Session.since_eq hhistory]
    obtain ⟨assignment, hassignment, hbroadcasts⟩ :=
      Fallible.exists_getElem?_of_forall₂ hassigned hcommand
    obtain ⟨replies, hpart, hnodes, hreceived⟩ :=
      Assignment.delivered_brought (hbrought lists rfl) hassignment
    have houtcome := gather_of_concludeAll hconclude hpart (hbroadcasts.keyless_iff.1 hkeys)
    exact ⟨replies, _, houtcome,
      Outcome.aggregates_gather (hnodes ▸ hbroadcasts.listsOnce hkeys) hreceived⟩
  · obtain ⟨others, hothers, hrest⟩ := concludeAll_filter hconclude
    refine ⟨others, hothers, ?_⟩
    rw [← hrest, List.filter_congr fun part hpart => ?_]
    have hmem := List.mem_map_of_mem (f := Prod.fst) hpart
    rw [Assignment.map_fst_delivered] at hmem
    simp [(Assignment.broadcasts_of_mem hassigned hmem).keyless_iff]

set_option maxRecDepth 4000 in
/-- One of two primaries redirects the command that went to both. Nothing is sent after that. -/
theorem onCluster_broadcasts_moved :
    let session := halves [":3\r\n"] ["$1\r\nx\r\n-MOVED 1 lower:1\r\n"]
    let commands : List Command := [⟨"GET", [.text "a"]⟩, ⟨"DBSIZE", []⟩]
    let concluded := (onCluster {} (some .allPrimaries) commands).run.run session
    concluded.2.sent.length = 2 ∧ ∃ outcomes, concluded.1 = .ok outcomes ∧
      ∃ assignments planned lists answered,
        Broadcast {} .allPrimaries commands assignments lists planned answered concluded.2
          outcomes := by
  intro session commands concluded
  have hok : concluded.1.isOk := by decide +kernel
  cases hresult : concluded.1 with
  | error e =>
    rw [hresult] at hok
    cases hok
  | ok outcomes =>
    obtain ⟨assignments, planned, lists, answered, -, -, hbroadcast⟩ :=
      onCluster_broadcasts (.inl rfl) (Prod.ext hresult rfl)
    exact ⟨by decide +kernel, outcomes, rfl, assignments, planned, lists, answered, hbroadcast⟩

end Pipeline

end ClusterBatch
