import ClusterBatch.Proofs.Delivery
import ClusterBatch.Proofs.Evolution
import ClusterBatch.Proofs.Spreading
import ClusterBatch.ScriptedCluster

/-!
# Demultiplexing

A pipeline on a cluster sends every node one frame with the node's commands and gives every command
the reply that belongs to it, in whatever order the nodes answer. Before that nothing but questions
about the topology is sent, and nothing after it unless a command is redirected.

Main statement: `Pipeline.onCluster_demultiplexes`.
-/

namespace ClusterBatch

namespace Assignment

/-- What is known of the assignment of a command: no node is used twice, and there is one node
unless replies are collected. -/
structure Serves (command : Command) (assignment : Assignment) : Prop where
  command_eq : assignment.command = command
  nodup : assignment.nodes.Nodup
  single : assignment.target.isMultiNode = false → ∃ node, assignment.nodes = [node]

theorem eq_of_ofNodes {nodes found : List NodeAddress} {router after : Router}
    (h : (Router.resolve.ofNodes nodes).run.run router = (.ok found, after)) : found = nodes := by
  unfold Router.resolve.ofNodes at h
  split at h
  · cases h
  · cases h
    rfl

theorem nodup_of_resolve {topology : Topology} {target : Target} {router after : Router}
    {nodes : List NodeAddress}
    (h : (Router.resolve topology target).run.run router = (.ok nodes, after)) :
    nodes.Nodup ∧ (target.isMultiNode = false → ∃ node, nodes = [node]) := by
  cases target with
  | serving node =>
    cases h
    simp
  | named node =>
    cases h
    simp
  | random =>
    obtain ⟨node, _, -, h⟩ := Fallible.run_bind_eq_ok.1 h
    cases h
    simp
  | allPrimaries => exact ⟨eq_of_ofNodes h ▸ nodup_distinct _, nofun⟩
  | allNodes => exact ⟨eq_of_ofNodes h ▸ nodup_distinct _, nofun⟩

theorem serves_of_ofCommands {topology : Topology} {hint : Option Hint} {commands : List Command}
    {router after : Router} {assignments : List Assignment}
    (h : (ofCommands topology hint commands).run.run router = (.ok assignments, after)) :
    List.Forall₂ Serves commands assignments := by
  refine Fallible.forall₂_of_mapM ?_ h
  intro command router assignment after h
  obtain ⟨target, _, -, h⟩ := Fallible.run_bind_eq_ok.1 h
  obtain ⟨nodes, _, hnodes, h⟩ := Fallible.run_bind_eq_ok.1 h
  cases h
  obtain ⟨hnodup, hsingle⟩ := nodup_of_resolve hnodes
  exact ⟨rfl, hnodup, hsingle⟩

theorem serves_of_mem {commands : List Command} {assignments : List Assignment}
    {assignment : Assignment} (h : List.Forall₂ Serves commands assignments)
    (hmem : assignment ∈ assignments) : Serves assignment.command assignment := by
  induction h with
  | nil => cases hmem
  | @cons command _ _ _ hserves _ ih =>
    rcases List.mem_cons.1 hmem with rfl | hmem
    · exact hserves.command_eq ▸ hserves
    · exact ih hmem

theorem nodup_of_serves {commands : List Command} {assignments : List Assignment}
    (h : List.Forall₂ Serves commands assignments) :
    ∀ assignment ∈ assignments, assignment.nodes.Nodup :=
  fun _ hmem => (serves_of_mem h hmem).nodup

/-- A command that goes to one node is handed the reply at its place. -/
theorem delivered_single {commands : List Command} {assignments : List Assignment}
    {assignment : Assignment} {sent : List Transmission} {lists : List (List Reply)} {i : Nat}
    (hserves : List.Forall₂ Serves commands assignments)
    (hparcels : sent.map Transmission.parcel = parcels assignments)
    (hresults : sent.map Transmission.result = lists.map .ok)
    (hassignment : assignments[i]? = some assignment)
    (hsingle : assignment.target.isMultiNode = false) :
    ∃ node reply, assignment.nodes = [node] ∧ ReceivedAt assignments sent i node reply ∧
      (delivered assignments lists)[i]? = some (assignment, [(node, reply)]) := by
  obtain ⟨placed, hplaced, hnodes, hreceived⟩ :=
    delivered_received hparcels hresults hassignment
  have hmem : assignment ∈ assignments := List.mem_of_getElem? hassignment
  obtain ⟨node, hnode⟩ := (serves_of_mem hserves hmem).single hsingle
  rw [hnode] at hnodes
  obtain ⟨⟨_, reply⟩, rfl, rfl⟩ := List.map_eq_singleton_iff.1 hnodes
  exact ⟨_, reply, hnode, hreceived _ List.mem_cons_self, hplaced⟩

/-- Every node of some assignments has been sent one frame: its commands, in order. -/
structure OneFrameEach (assignments : List Assignment) (sent : List Transmission) : Prop where
  nodup : (sent.map Transmission.node).Nodup
  mem_iff : ∀ node, node ∈ sent.map Transmission.node ↔
    ∃ assignment ∈ assignments, node ∈ assignment.nodes
  frame_eq : ∀ t ∈ sent, t.parcel.frame =
    (assignments.filter (t.node ∈ ·.nodes)).flatMap (·.command.encode)
  count_eq : ∀ t ∈ sent, t.parcel.count = (assignments.filter (t.node ∈ ·.nodes)).length

theorem oneFrameEach_of_parcels {assignments : List Assignment} {sent : List Transmission}
    (h : sent.map Transmission.parcel = parcels assignments) : OneFrameEach assignments sent where
  nodup := node_of_parcels h ▸ nodup_distinct _
  mem_iff node := by rw [node_of_parcels h, mem_allNodes]
  frame_eq t ht := congrArg Parcel.frame (parcel_of_mem_parcels (h ▸ List.mem_map_of_mem ht))
  count_eq t ht := congrArg Parcel.count (parcel_of_mem_parcels (h ▸ List.mem_map_of_mem ht))

/-- The places that commands get when they are packed lie in what has been sent: the one in the
frame of a node is how many commands before went to that node. Every place there belongs to one
command. -/
structure PlacedOnce (assignments : List Assignment) (sent : List Transmission) : Prop where
  frames_eq : (packAll assignments).2 = sent.map Transmission.parcel
  places_eq : ∀ {i : Nat} {assignment : Assignment}, assignments[i]? = some assignment →
    (packAll assignments).1[i]? = some (assignment.nodes.map fun node =>
      ⟨(sent.map Transmission.node).idxOf node, place assignments node i⟩)
  mem_iff : ∀ placement, placement ∈ (packAll assignments).1.flatten ↔
    ∃ t, sent[placement.frame]? = some t ∧ placement.index < t.parcel.count
  nodup : (packAll assignments).1.flatten.Nodup

theorem placedOnce_of_parcels {assignments : List Assignment} {sent : List Transmission}
    (hnodup : ∀ assignment ∈ assignments, assignment.nodes.Nodup)
    (h : sent.map Transmission.parcel = parcels assignments) : PlacedOnce assignments sent where
  frames_eq := by rw [packAll_eq hnodup, h]
  places_eq hassignment := by
    rw [packAll_eq hnodup, node_of_parcels h]
    exact placements_getElem? hassignment
  mem_iff placement := by
    rw [packAll_eq hnodup, mem_flatten_placements_iff, ← h]
    simp only [List.getElem?_map, Option.map_eq_some_iff, exists_exists_and_eq_and]
  nodup := by
    rw [packAll_eq hnodup]
    exact nodup_flatten_placements hnodup

end Assignment

namespace Pipeline

open Assignment

variable {σ : Type} [Network σ] {settings : Settings} {hint : Option Hint}
  {commands : List Command} {assignments : List Assignment}
  {session planned answered final : Session σ}

theorem serves_of_assign
    (hassign : (assign settings hint commands).run.run session = (.ok assignments, planned)) :
    List.Forall₂ Serves commands assignments := by
  obtain ⟨router, hplan⟩ := Discovery.run_routed hassign
  exact serves_of_ofCommands hplan

/-- Packed frames are sent, and what comes back is handed out. -/
theorem carryOut_eq (settings : Settings)
    (hnodup : ∀ assignment ∈ assignments, assignment.nodes.Nodup) :
    (carryOut settings assignments : Call σ _) = (do
      let lists ← dispatch settings.replyLimit settings.backoff (parcels assignments)
      concludeAll settings false (delivered assignments lists)) := by
  unfold carryOut
  rw [packAll_eq hnodup]
  refine bind_congr fun lists => ?_
  rw [← deliver_eq hnodup]
  rfl

/-- Each outcome is what some command is concluded with. -/
theorem conclude_of_concludeAll {settings : Settings} {refreshed : Bool}
    {delivered : List (Assignment × List (NodeAddress × Reply))} {session after : Session σ}
    {outcomes : List Outcome}
    (h : (concludeAll settings refreshed delivered).run.run session = (.ok outcomes, after)) :
    List.Forall₂ (fun part outcome => ∃ (before later : Session σ) (first second : Bool),
      (conclude settings first part.1 part.2).run.run before = (.ok (outcome, second), later))
      delivered outcomes := by
  induction delivered generalizing refreshed session outcomes with
  | nil =>
    cases h
    exact .nil
  | cons part rest ih =>
    obtain ⟨⟨outcome, refreshed'⟩, _, hfirst, h⟩ := Fallible.run_bind_eq_ok.1 h
    obtain ⟨others, _, hrest, h⟩ := Fallible.run_bind_eq_ok.1 h
    cases h
    exact .cons ⟨_, _, _, _, hfirst⟩ (ih hrest)

theorem concludeAll_eq_ok {settings : Settings} {refreshed : Bool}
    {delivered : List (Assignment × List (NodeAddress × Reply))} {session after : Session σ}
    {outcomes : List Outcome}
    (h : (concludeAll settings refreshed delivered).run.run session = (.ok outcomes, after)) :
    List.Forall₂ (fun part outcome => part.1.target.isMultiNode = false →
      Redirect.ofReply? ((part.2.map Prod.snd).headD .null) = none →
        outcome = .ofReply ((part.2.map Prod.snd).headD .null)) delivered outcomes := by
  refine (conclude_of_concludeAll h).imp ?_
  rintro part outcome ⟨_, _, _, _, hconclude⟩ hsingle hreply
  simp only [conclude, hsingle, hreply] at hconclude
  cases hconclude
  rfl

/-- What a command comes to at once. -/
def settled (part : Assignment × List (NodeAddress × Reply)) : Outcome :=
  if part.1.target.isMultiNode then .gather part.2
  else .ofReply ((part.2.map Prod.snd).headD .null)

/-- Commands that are not redirected are concluded without anything being done. -/
theorem run_concludeAll_of_stays {delivered : List (Assignment × List (NodeAddress × Reply))}
    (hstays : ∀ part ∈ delivered, part.1.target.isMultiNode = false →
      Redirect.ofReply? ((part.2.map Prod.snd).headD .null) = none) (refreshed : Bool) :
    (concludeAll settings refreshed delivered).run.run session =
      (.ok (delivered.map settled), session) := by
  induction delivered with
  | nil => rfl
  | cons part rest ih =>
    obtain ⟨hfirst, hrest⟩ := List.forall_mem_cons.1 hstays
    have hconclude : (conclude settings refreshed part.1 part.2).run.run session =
        (.ok (settled part, refreshed), session) := by
      unfold conclude settled
      cases hmulti : part.1.target.isMultiNode with
      | true => rfl
      | false =>
        simp only [hfirst hmulti]
        rfl
    rw [concludeAll, Fallible.run_bind_of_ok hconclude]
    exact Fallible.run_bind_of_ok (ih hrest)

theorem run_onCluster_of_ok {lists : List (List Reply)}
    (hassign : (assign settings hint commands).run.run session = (.ok assignments, planned))
    (hdispatch : (dispatch settings.replyLimit settings.backoff (parcels assignments)).run.run
      planned = (.ok lists, answered)) :
    (onCluster settings hint commands).run.run session =
      (concludeAll settings false (delivered assignments lists)).run.run answered := by
  rw [onCluster_eq, Fallible.run_bind_of_ok hassign,
    carryOut_eq settings (nodup_of_serves (serves_of_assign hassign)),
    Fallible.run_bind_of_ok hdispatch]

theorem run_onCluster_of_error {e : Error}
    (hassign : (assign settings hint commands).run.run session = (.ok assignments, planned))
    (hdispatch : (dispatch settings.replyLimit settings.backoff (parcels assignments)).run.run
      planned = (.error e, answered)) :
    (onCluster settings hint commands).run.run session = (.error e, answered) := by
  rw [onCluster_eq, Fallible.run_bind_of_ok hassign,
    carryOut_eq settings (nodup_of_serves (serves_of_assign hassign)),
    Fallible.run_bind_of_error hdispatch]

theorem outcome_of_concludeAll {settings : Settings} {refreshed : Bool} {node : NodeAddress}
    {delivered : List (Assignment × List (NodeAddress × Reply))} {session after : Session σ}
    {outcomes : List Outcome} {assignment : Assignment} {reply : Reply} {i : Nat}
    (h : (concludeAll settings refreshed delivered).run.run session = (.ok outcomes, after))
    (hpart : delivered[i]? = some (assignment, [(node, reply)]))
    (hsingle : assignment.target.isMultiNode = false) (hreply : Redirect.ofReply? reply = none) :
    outcomes[i]? = some (.ofReply reply) := by
  obtain ⟨outcome, houtcome, hconclude⟩ :=
    Fallible.exists_getElem?_of_forall₂ (concludeAll_eq_ok h) hpart
  rw [houtcome, hconclude hsingle hreply]
  rfl

/-- What becomes of the commands of a pipeline that have been assigned to nodes: what is sent before
redirects are followed, what is sent later, and what the replies are used for. -/
structure Demultiplexed (commands : List Command) (assignments : List Assignment)
    (dispatched later : List Transmission) (result : Except Error (List Outcome)) : Prop where
  assigned : List.Forall₂ Serves commands assignments
  frames : OneFrameEach assignments dispatched
  placed : PlacedOnce assignments dispatched
  /-- Each command is handed a reply from each of its nodes, the one at its place. -/
  handed : ∀ {lists : List (List Reply)} {i : Nat} {assignment : Assignment},
    dispatched.map Transmission.result = lists.map .ok → assignments[i]? = some assignment →
      ∃ replies, ((Inbox.deliver (dispatched.map Transmission.node)
          (assignments.zip (packAll assignments).1)).run (.ofReplies lists)).1[i]?
            = some (assignment, replies) ∧
        replies.map Prod.fst = assignment.nodes ∧
        ∀ p ∈ replies, ReceivedAt assignments dispatched i p.1 p.2
  /-- Nothing more is sent if a node answers nonsense, or if no command is redirected. -/
  fails : ∀ t ∈ dispatched, (∀ replies, t.result ≠ .ok replies) →
    later = [] ∧ ∃ e, result = .error e ∧ ∃ t ∈ dispatched, t.Brings (.error e)
  settles : (∀ t ∈ dispatched, ∃ replies, t.result = .ok replies) →
    (∀ {i : Nat} {assignment : Assignment} {node : NodeAddress} {reply : Reply},
      assignments[i]? = some assignment → assignment.target.isMultiNode = false →
        assignment.nodes = [node] → ReceivedAt assignments dispatched i node reply →
          Redirect.ofReply? reply = none) →
      later = [] ∧ ∃ outcomes, result = .ok outcomes
  length_eq : ∀ {outcomes : List Outcome}, result = .ok outcomes → outcomes.length = commands.length
  outcome_eq : ∀ {outcomes : List Outcome} {i : Nat} {assignment : Assignment},
    result = .ok outcomes → assignments[i]? = some assignment →
      assignment.target.isMultiNode = false →
        ∃ node reply, assignment.nodes = [node] ∧ ReceivedAt assignments dispatched i node reply ∧
          (Redirect.ofReply? reply = none →
            (∀ line, reply.IsErrorWith line → outcomes[i]? = some (.failure (.ofLine line))) ∧
            ((∀ line, ¬reply.IsErrorWith line) → outcomes[i]? = some (.success reply)))

section Fates

variable {dispatched later : List Transmission} {result : Except Error (List Outcome)}
  (hserves : List.Forall₂ Serves commands assignments)
  (hparcels : dispatched.map Transmission.parcel = parcels assignments)

include hserves hparcels

theorem handed_of_parcels {lists : List (List Reply)} {i : Nat} {assignment : Assignment}
    (hresults : dispatched.map Transmission.result = lists.map .ok)
    (hassignment : assignments[i]? = some assignment) :
    ∃ replies, ((Inbox.deliver (dispatched.map Transmission.node)
        (assignments.zip (packAll assignments).1)).run (.ofReplies lists)).1[i]?
          = some (assignment, replies) ∧
      replies.map Prod.fst = assignment.nodes ∧
      ∀ p ∈ replies, ReceivedAt assignments dispatched i p.1 p.2 := by
  have hnodup := nodup_of_serves hserves
  rw [packAll_eq hnodup, node_of_parcels hparcels, ← map_node_parcels, deliver_eq hnodup]
  exact delivered_received hparcels hresults hassignment

theorem demultiplexed_of_error {e : Error} {t : Transmission} (ht : t ∈ dispatched)
    (hbrings : t.Brings (.error e)) :
    Demultiplexed commands assignments dispatched [] (.error e) where
  assigned := hserves
  frames := oneFrameEach_of_parcels hparcels
  placed := placedOnce_of_parcels (nodup_of_serves hserves) hparcels
  handed := handed_of_parcels hserves hparcels
  fails _ _ _ := ⟨rfl, e, rfl, t, ht, hbrings⟩
  settles hsound _ := by
    obtain ⟨cause, hresult, -⟩ := hbrings
    obtain ⟨replies, hreplies⟩ := hsound t ht
    cases hresult.symm.trans hreplies
  length_eq := nofun
  outcome_eq := nofun

/-- Where no command is redirected, no further step is taken. -/
theorem settles_of_concludeAll {lists : List (List Reply)}
    (hresults : dispatched.map Transmission.result = lists.map .ok)
    (hhistory : final.history = answered.history ++ later)
    (hconclude : (concludeAll settings false (delivered assignments lists)).run.run answered =
      (result, final))
    (hstays : ∀ {i : Nat} {assignment : Assignment} {node : NodeAddress} {reply : Reply},
      assignments[i]? = some assignment → assignment.target.isMultiNode = false →
        assignment.nodes = [node] → ReceivedAt assignments dispatched i node reply →
          Redirect.ofReply? reply = none) :
    later = [] ∧ ∃ outcomes, result = .ok outcomes := by
  have hparts : ∀ part ∈ delivered assignments lists, part.1.target.isMultiNode = false →
      Redirect.ofReply? ((part.2.map Prod.snd).headD .null) = none := by
    rintro ⟨assignment, replies⟩ hpart hsingle
    obtain ⟨i, hi⟩ := List.getElem?_of_mem hpart
    have hassignment : assignments[i]? = some assignment := getElem?_of_delivered hi
    obtain ⟨node, reply, hnode, hreceived, hat⟩ :=
      delivered_single hserves hparcels hresults hassignment hsingle
    cases hi.symm.trans hat
    exact hstays hassignment hsingle hnode hreceived
  have hrun : (concludeAll settings false (delivered assignments lists)).run.run answered = _ :=
    run_concludeAll_of_stays hparts false
  cases hrun.symm.trans hconclude
  exact ⟨List.append_cancel_left (hhistory.symm.trans (List.append_nil _).symm), _, rfl⟩

theorem demultiplexed_of_concludeAll {lists : List (List Reply)}
    (hresults : dispatched.map Transmission.result = lists.map .ok)
    (hhistory : final.history = answered.history ++ later)
    (hconclude : (concludeAll settings false (delivered assignments lists)).run.run answered =
      (result, final)) :
    Demultiplexed commands assignments dispatched later result where
  assigned := hserves
  frames := oneFrameEach_of_parcels hparcels
  placed := placedOnce_of_parcels (nodup_of_serves hserves) hparcels
  handed := handed_of_parcels hserves hparcels
  fails t ht hunsound := by
    have hresult : t.result ∈ lists.map .ok := hresults ▸ List.mem_map_of_mem ht
    obtain ⟨replies, -, hreplies⟩ := List.mem_map.1 hresult
    exact absurd hreplies.symm (hunsound replies)
  settles _ hstays := settles_of_concludeAll hserves hparcels hresults hhistory hconclude hstays
  length_eq := by
    rintro outcomes rfl
    rw [← (conclude_of_concludeAll hconclude).length_eq, length_delivered, ← hserves.length_eq]
  outcome_eq := by
    rintro outcomes i assignment rfl hassignment hsingle
    obtain ⟨node, reply, hnode, hreceived, hpart⟩ :=
      delivered_single hserves hparcels hresults hassignment hsingle
    refine ⟨node, reply, hnode, hreceived, fun hreply => ?_⟩
    have houtcome := outcome_of_concludeAll hconclude hpart hsingle hreply
    refine ⟨fun line herror => ?_, fun hsound => ?_⟩
    · rw [houtcome, Outcome.ofReply, Reply.errorMessage?_eq_some_iff.2 herror]
    · rw [houtcome, Outcome.ofReply, Reply.errorMessage?_eq_none_iff.2 hsound]

end Fates

/-- Whatever is done once the replies have come in, what has been sent before stays in the
history. -/
theorem history_concludeAll (settings : Settings) (refreshed : Bool)
    (delivered : List (Assignment × List (NodeAddress × Reply))) (session : Session σ) :
    session.history <+:
      ((concludeAll settings refreshed delivered).run.run session).2.history := by
  have hsearches := (compositional_onlySearches (σ := σ)).concludeAll Discovery.onlySearches_refresh
    fun limit backoff parcel => .of_adds (parcel.adds_exchange limit backoff)
  obtain ⟨events, hevolves, -⟩ := hsearches settings refreshed delivered session
  exact hevolves.history

/-- Every node is sent one frame with its commands, every command gets the reply at its place in the
frame of its node, and no place belongs to two commands. Before these frames nothing but questions
about the topology is sent. -/
theorem onCluster_demultiplexes {result : Except Error (List Outcome)}
    (hassign : (assign settings hint commands).run.run session = (.ok assignments, planned))
    (hrun : (onCluster settings hint commands).run.run session = (result, final))
    (hkept : ∀ t ∈ session.since final, t.isLost = false) :
    (∃ router, (ofCommands planned.directory.current hint commands).run.run router
        = (.ok assignments, planned.router)) ∧
      ∃ queries dispatched later,
        planned.history = session.history ++ queries ∧
        (∀ t ∈ queries, t.parcel = Discovery.parcel t.node) ∧
        final.history = session.history ++ queries ++ dispatched ++ later ∧
        Demultiplexed commands assignments dispatched later result := by
  have hserves := serves_of_assign hassign
  obtain ⟨queries, hplanned, hqueries⟩ := Discovery.asks_routed settings
    (fun topology => ofCommands topology hint commands) session
  change ((assign settings hint commands).run.run session).2.history = _ at hplanned
  rw [hassign] at hplanned
  obtain ⟨dispatched, hanswered, hspec⟩ := sends_dispatch settings.replyLimit settings.backoff
    (parcels assignments) planned
  rcases hdispatch : (dispatch settings.replyLimit settings.backoff (parcels assignments)).run.run
    planned with ⟨arrived, answered⟩
  rw [hdispatch] at hanswered hspec
  have hsent {later : List Transmission} (hfinal : final.history = answered.history ++ later) :
      final.history = session.history ++ queries ++ dispatched ++ later ∧
        ∀ t ∈ dispatched, t.isLost = false := by
    have hhistory : final.history = session.history ++ (queries ++ dispatched ++ later) := by
      rw [hfinal, hanswered, hplanned]
      simp
    rw [Session.since_eq hhistory] at hkept
    exact ⟨by simpa using hhistory, fun t ht => hkept t (by simp [ht])⟩
  refine ⟨Discovery.run_routed hassign, queries, dispatched, ?_⟩
  cases arrived with
  | error e =>
    cases (run_onCluster_of_error hassign hdispatch).symm.trans hrun
    obtain ⟨hfinal, hdispatchedKept⟩ := hsent (List.append_nil _).symm
    obtain ⟨hparcels, t, ht, hbrings⟩ := hspec hdispatchedKept
    exact ⟨[], hplanned, hqueries, hfinal, demultiplexed_of_error hserves hparcels ht hbrings⟩
  | ok lists =>
    have hconclude := (run_onCluster_of_ok hassign hdispatch).symm.trans hrun
    obtain ⟨later, hlater⟩ := history_concludeAll settings false (delivered assignments lists)
      answered
    rw [hconclude] at hlater
    obtain ⟨hfinal, hdispatchedKept⟩ := hsent hlater.symm
    obtain ⟨hparcels, hresults⟩ := hspec hdispatchedKept
    exact ⟨later, hplanned, hqueries, hfinal,
      demultiplexed_of_concludeAll hserves hparcels hresults hlater.symm hconclude⟩

/-- A session with two nodes that serve half of the slots each and answer as told. -/
def halves (lower upper : List String) : Session ScriptedCluster :=
  let script (answers : List String) : List Act :=
    answers.map fun answer => { response := .reply (Bytes.ofAscii answer) }
  { nodes := ⟨[{ address := ⟨"lower", 1⟩, script := script lower },
      { address := ⟨"upper", 2⟩, script := script upper }]⟩
    directory :=
      { current := { shards := [⟨0, 8191, ⟨"lower", 1⟩, []⟩, ⟨8192, 16383, ⟨"upper", 2⟩, []⟩] } }
    router := { policy := .primary } }

set_option maxRecDepth 4000 in
/-- A command with a key and one for all primaries, which share a frame at one of two nodes. -/
theorem onCluster_demultiplexes_halves :
    let session := halves [":3\r\n"] ["$1\r\nx\r\n:4\r\n"]
    let commands : List Command := [⟨"GET", [.text "a"]⟩, ⟨"DBSIZE", []⟩]
    let assignments : List Assignment :=
      [⟨⟨"GET", [.text "a"]⟩, .serving ⟨"upper", 2⟩, [⟨"upper", 2⟩]⟩,
        ⟨⟨"DBSIZE", []⟩, .allPrimaries, [⟨"lower", 1⟩, ⟨"upper", 2⟩]⟩]
    let concluded := (onCluster {} (some .allPrimaries) commands).run.run session
    concluded.1.isOk ∧ ∃ dispatched later,
      concluded.2.history = session.history ++ dispatched ++ later ∧
        Demultiplexed commands assignments dispatched later concluded.1 := by
  intro session commands assignments concluded
  have hassign : (assign {} (some .allPrimaries) commands).run.run session
      = (.ok assignments, session) := Discovery.run_routed_of_current (by decide) rfl
  have hkept : ∀ t ∈ session.since concluded.2, t.isLost = false := by decide +kernel
  obtain ⟨-, queries, dispatched, later, hplanned, -, hfinal, hfates⟩ :=
    onCluster_demultiplexes hassign (Prod.eta concluded).symm hkept
  obtain rfl : queries = [] :=
    List.append_cancel_left (hplanned.symm.trans (List.append_nil _).symm)
  rw [List.append_nil] at hfinal
  exact ⟨by decide +kernel, dispatched, later, hfinal, hfates⟩

end Pipeline

end ClusterBatch
