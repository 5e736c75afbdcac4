import ClusterBatch.Proofs.CrossSlots
import ClusterBatch.Proofs.Demultiplexing
import ClusterBatch.Proofs.Searches

/-!
# Runs of transactions

A transaction whose keys share a slot is sent to the primary of that slot, and to nobody else unless
a command is not acknowledged because the slot has moved. Then it is sent once more, to the node
that the first such reply names. If nodes abort a transaction of which they did not acknowledge
every command, it is therefore applied at most once.

Main statement: `Client.execute_runs`.
-/

namespace ClusterBatch

def Reply.Moves (reply : Reply) (redirect : Redirect) : Prop :=
  Redirect.ofReply? reply = some redirect ∧ redirect.kind = .moved

namespace Transmission

/-- A transaction was sent: the opening request, the commands in order and the closing request, each
of which gets a reply. -/
structure Submits (commands : List Command) (t : Transmission) : Prop where
  frame_eq : t.parcel.frame =
    Request.multi.encode ++ commands.flatMap Command.encode ++ Request.exec.encode
  count_eq : t.parcel.count = commands.length + 2

/-- A node that does not acknowledge one of `count` commands answers the closing request with an
error. The first reply is to the opening request. -/
def Aborts (count : Nat) (t : Transmission) : Prop :=
  ∀ replies, t.result = .ok replies →
    (∃ i reply, i < count ∧ replies[i + 1]? = some reply ∧ reply.errorMessage?.isSome) →
      ∃ exec, replies[count + 1]? = some exec ∧ exec.errorMessage?.isSome

/-- Whether a transaction of `count` commands may have been applied: the answer to the closing
request is not known to be an error. -/
def mayApply (count : Nat) (t : Transmission) : Bool :=
  match t.result with
  | .ok replies => !(replies[count + 1]?.any (·.errorMessage?.isSome))
  | .error _ => true

end Transmission

namespace Transaction

/-- Some command is not acknowledged because the slot has moved. The first such reply names the new
home. -/
def MovedTo (count : Nat) (replies : List Reply) (redirect : Redirect) : Prop :=
  ∃ i reply, i < count ∧ replies[i + 1]? = some reply ∧ reply.Moves redirect ∧
    ∀ j earlier other, j < i → replies[j + 1]? = some earlier → ¬earlier.Moves other

variable {count slot : Nat} {replies : List Reply} {redirect : Redirect} {hint : Option Hint}

theorem getElem?_acknowledgements (count i : Nat) (replies : List Reply) :
    ((replies.drop 1).take count)[i]? = if i < count then replies[i + 1]? else none := by
  rw [List.getElem?_take, List.getElem?_drop, Nat.add_comm]

theorem filter_eq_some_iff {reply : Reply} :
    (Redirect.ofReply? reply).filter (·.kind = .moved) = some redirect ↔ reply.Moves redirect := by
  simp [Option.filter_eq_some_iff, Reply.Moves]

theorem filter_eq_none_iff {reply : Reply} :
    (Redirect.ofReply? reply).filter (·.kind = .moved) = none ↔
      ∀ redirect, ¬reply.Moves redirect := by
  simp [Reply.Moves]

theorem moved?_eq_none_iff : moved? count replies = none ↔
    ∀ i reply redirect, i < count → replies[i + 1]? = some reply → ¬reply.Moves redirect := by
  unfold moved?
  rw [List.findSome?_eq_none_iff]
  simp only [filter_eq_none_iff, List.mem_iff_getElem?, getElem?_acknowledgements]
  constructor
  · intro h i reply redirect hi hreply
    exact h reply ⟨i, by rw [if_pos hi, hreply]⟩ redirect
  · rintro h reply ⟨i, hreply⟩ redirect
    split_ifs at hreply with hi
    exact h i reply redirect hi hreply

theorem movedTo_of_moved? (h : moved? count replies = some redirect) :
    MovedTo count replies redirect := by
  obtain ⟨before, reply, rest, hsplit, hreply, hbefore⟩ := List.findSome?_eq_some_iff.1 h
  have hplace (i : Nat) : (before ++ reply :: rest)[i]? =
      if i < count then replies[i + 1]? else none := by
    rw [← hsplit, getElem?_acknowledgements]
  have hfirst := hplace before.length
  rw [List.getElem?_append_right (Nat.le_refl _), Nat.sub_self, List.getElem?_cons_zero] at hfirst
  split_ifs at hfirst with hlt
  refine ⟨before.length, reply, hlt, hfirst.symm, filter_eq_some_iff.1 hreply, ?_⟩
  intro j earlier other hj hearlier
  have hmem := hplace j
  rw [List.getElem?_append_left hj, if_pos (hj.trans hlt), hearlier] at hmem
  exact filter_eq_none_iff.1 (hbefore earlier (List.mem_of_getElem? hmem)) other

/-- What a transaction of `count` commands comes to, given the replies to it. -/
inductive Settles (count : Nat) (t : Transmission) : Except Error (List Outcome) → Prop
  | read {replies : List Reply} (hresult : t.result = .ok replies) :
    Settles count t ((outcomes count replies).mapError .protocol)
  | undecodable {cause : DecodeError} (hresult : t.result = .error (.undecodable cause)) :
    Settles count t (.error (.protocol (.undecodable cause)))

/-- A transaction goes to the primary of its slot, and is not sent anywhere where the slot is a
gap. -/
theorem run_route (topology : Topology) (router : Router) :
    (route (some slot) hint topology).run.run router =
      match topology.owner? slot with
      | some shard => (.ok shard.primary, router)
      | none => (.error (.topologyGap slot), router) := by
  have htarget : (Router.slotTarget topology slot false).run.run router =
      match topology.owner? slot with
      | some shard => (.ok (.serving shard.primary), router)
      | none => (.error (.topologyGap slot), router) := by
    unfold Router.slotTarget Topology.lookup
    cases topology.owner? slot <;> rfl
  cases howner : topology.owner? slot with
  | some shard =>
    rw [howner] at htarget
    exact Fallible.run_bind_of_ok htarget
  | none =>
    rw [howner] at htarget
    exact Fallible.run_bind_of_error htarget

theorem isSome_of_moves {reply : Reply} (h : reply.Moves redirect) :
    reply.errorMessage?.isSome := by
  obtain ⟨message, hmessage, -⟩ := Option.bind_eq_some_iff.1 h.1
  rw [hmessage]
  rfl

/-- Where a transaction is aborted whose slot has moved, it is not applied. -/
theorem mayApply_of_movedTo {t : Transmission} (hresult : t.result = .ok replies)
    (hmoved : MovedTo count replies redirect) (haborts : t.Aborts count) :
    t.mayApply count = false := by
  obtain ⟨i, reply, hi, hreply, hmoves, -⟩ := hmoved
  have herrors := isSome_of_moves hmoves
  obtain ⟨exec, hexec, herror⟩ := haborts replies hresult ⟨i, reply, hi, hreply, herrors⟩
  simp [Transmission.mayApply, hresult, hexec, herror]

variable {σ : Type} [Network σ]

/-- What is done after a transaction has been sent for the first time. It is sent once more if its
slot has moved, after one search for a newer topology, whatever that finds. -/
inductive Proceeds (commands : List Command) (t : Transmission) (answered : Session σ) :
    List Transmission → Except Error (List Outcome) → Session σ → Prop
  | settled {result : Except Error (List Outcome)}
    (hstays : ∀ replies redirect, t.result = .ok replies →
      ¬MovedTo commands.length replies redirect)
    (hsettles : Settles commands.length t result) : Proceeds commands t answered [] result answered
  | astray {replies : List Reply} {redirect : Redirect} {fault : AddressError}
    {found : Except Error Topology} {searched : Session σ} {asked : List Transmission}
    (hresult : t.result = .ok replies) (hmoved : MovedTo commands.length replies redirect)
    (hsearch : Discovery.refresh.run.run answered = (found, searched))
    (hsearched : searched.history = answered.history ++ asked)
    (hasked : ∀ q ∈ asked, q.parcel = Discovery.parcel q.node)
    (hfault : NodeAddress.ofText redirect.address = .error fault) :
    Proceeds commands t answered []
      (.error (.protocol (.unusableRedirect redirect.address))) searched
  | again {replies : List Reply} {redirect : Redirect} {found : Except Error Topology}
    {searched final : Session σ} {asked : List Transmission} {last : Transmission}
    {result : Except Error (List Outcome)}
    (hresult : t.result = .ok replies) (hmoved : MovedTo commands.length replies redirect)
    (hsearch : Discovery.refresh.run.run answered = (found, searched))
    (hsearched : searched.history = answered.history ++ asked)
    (hasked : ∀ q ∈ asked, q.parcel = Discovery.parcel q.node)
    (hnode : NodeAddress.ofText redirect.address = .ok last.node)
    (hframe : last.Submits commands) (hfinal : final.history = searched.history ++ [last])
    (hsettles : Settles commands.length last result) :
    Proceeds commands t answered [last] result final

/-- How a transaction for a slot runs, and the frames that are sent for it. Questions about the
topology may come first. Nothing else is sent if no node serves the slot in the topology that is
current then. -/
inductive Runs (settings : Settings) (hint : Option Hint) (commands : List Command) (slot : Nat)
    (session : Session σ) :
    List Transmission → Except Error (List Outcome) → Session σ → Prop
  | unrouted {planned : Session σ} {queries : List Transmission} {e : Error}
    (hroute : (Discovery.routed settings (route (some slot) hint)).run.run session =
      (.error e, planned))
    (hplanned : planned.history = session.history ++ queries)
    (hqueries : ∀ q ∈ queries, q.parcel = Discovery.parcel q.node)
    (hgap : planned.directory.current.owner? slot = none) (hcause : e.IsUnrouted) :
    Runs settings hint commands slot session [] (.error e) planned
  | routed {planned answered final : Session σ} {queries later : List Transmission} {shard : Shard}
    {t : Transmission} {result : Except Error (List Outcome)}
    (hroute : (Discovery.routed settings (route (some slot) hint)).run.run session =
      (.ok shard.primary, planned))
    (hplanned : planned.history = session.history ++ queries)
    (hqueries : ∀ q ∈ queries, q.parcel = Discovery.parcel q.node)
    (howner : planned.directory.current.owner? slot = some shard)
    (hnode : t.node = shard.primary) (hframe : t.Submits commands)
    (hanswered : answered.history = planned.history ++ [t])
    (hproceeds : Proceeds commands t answered later result final) :
    Runs settings hint commands slot session (t :: later) result final

variable {settings : Settings} {commands : List Command} {session planned final : Session σ}
  {result : Except Error (List Outcome)} {frames : List Transmission}

/-- A transaction is sent at most twice, and applied at most once where it is aborted as soon as a
command is not acknowledged. -/
theorem Runs.applied_once (h : Runs settings hint commands slot session frames result final) :
    frames.length ≤ 2 ∧ ((∀ t ∈ frames, t.Aborts commands.length) →
      frames.countP (·.mayApply commands.length) ≤ 1) := by
  cases h with
  | unrouted => exact ⟨Nat.zero_le _, fun _ => Nat.zero_le _⟩
  | routed _ _ _ _ _ _ _ hproceeds =>
    cases hproceeds with
    | settled => exact ⟨Nat.le_succ 1, fun _ => List.countP_le_length⟩
    | astray => exact ⟨Nat.le_succ 1, fun _ => List.countP_le_length⟩
    | again hresult hmoved =>
      refine ⟨Nat.le_refl 2, fun haborts => ?_⟩
      have hfirst := mayApply_of_movedTo hresult hmoved (haborts _ List.mem_cons_self)
      rw [List.countP_cons_of_neg (by simp [hfirst])]
      exact List.countP_le_length

theorem owner?_of_unrouted {e : Error}
    (h : (Discovery.routed settings (route (some slot) hint)).run.run session =
      (.error e, planned)) : planned.directory.current.owner? slot = none := by
  obtain hempty | ⟨router, cause, later, hroute⟩ := Discovery.run_routed_of_error h
  · have hnil : planned.directory.current.shards = [] := List.isEmpty_iff.1 hempty
    rw [Topology.owner?, hnil]
    rfl
  · rw [run_route] at hroute
    cases howner : planned.directory.current.owner? slot with
    | none => rfl
    | some shard =>
      rw [howner] at hroute
      cases hroute

theorem owner?_of_routed {node : NodeAddress}
    (h : (Discovery.routed settings (route (some slot) hint)).run.run session =
      (.ok node, planned)) :
    ∃ shard, planned.directory.current.owner? slot = some shard ∧ node = shard.primary := by
  obtain ⟨router, hroute⟩ := Discovery.run_routed h
  rw [run_route] at hroute
  cases howner : planned.directory.current.owner? slot with
  | none =>
    rw [howner] at hroute
    cases hroute
  | some shard =>
    rw [howner] at hroute
    cases hroute
    exact ⟨shard, rfl, rfl⟩

theorem sends_submit (settings : Settings) (commands : List Command) (node : NodeAddress) :
    Sends (submit settings node commands : Call σ _).run fun sent arrived =>
      ∃ t, sent = [t] ∧ t.node = node ∧ t.Submits commands ∧ t.Brings arrived := by
  refine (Parcel.sends_exchange _ _ (parcel node commands)).mono ?_
  rintro sent arrived - ⟨t, rfl, hparcel, hbrings⟩
  refine ⟨t, rfl, ?_, ⟨?_, ?_⟩, hbrings⟩
  · rw [Transmission.node, hparcel]
    rfl
  · rw [hparcel]
    rfl
  · rw [hparcel]
    rfl

omit [Network σ] in
theorem run_settle (commands : List Command) (replies : List Reply) :
    (settle commands replies : Call σ _).run.run session =
      ((outcomes commands.length replies).mapError .protocol, session) := by
  unfold settle
  cases outcomes commands.length replies <;> rfl

theorem settles_of_brings {t : Transmission} {e : Error} (h : t.Brings (.error e)) :
    Settles commands.length t (.error e) := by
  obtain ⟨cause, hresult, rfl⟩ := h
  exact .undecodable hresult

/-- What is sent when a transaction is sent for the last time, and what it comes to. -/
theorem sends_last (settings : Settings) (commands : List Command) (node : NodeAddress) :
    Sends (do settle commands (← submit settings node commands) : Call σ _).run fun sent result =>
      ∃ t, sent = [t] ∧ t.node = node ∧ t.Submits commands ∧ Settles commands.length t result := by
  have hsettle (replies : List Reply) : Sends (settle commands replies : Call σ _).run
      fun sent result => sent = [] ∧
        result = (outcomes commands.length replies).mapError .protocol := by
    intro session
    rw [run_settle]
    exact ⟨[], (List.append_nil _).symm, fun _ => ⟨rfl, rfl⟩⟩
  refine (Sends.bindCall _ (sends_submit settings commands node) hsettle).mono ?_
  rintro sent result - (⟨e, ⟨t, rfl, hnode, hframe, hbrings⟩, rfl⟩ |
    ⟨replies, _, _, rfl, -, ⟨t, rfl, hnode, hframe, hresult⟩, rfl, rfl⟩)
  · exact ⟨t, rfl, hnode, hframe, settles_of_brings hbrings⟩
  · exact ⟨t, rfl, hnode, hframe, .read hresult⟩

/-- What is done after a transaction whose slot has moved. -/
theorem proceeds_of_moved {answered : Session σ}
    (hmoved : moved? commands.length replies = some redirect)
    (hrun : (do
      Discovery.tryRefresh
      settle commands (← submit settings (← redirect.node) commands) :
        Call σ _).run.run answered = (result, final)) :
    ∃ sent, final.history = answered.history ++ sent ∧ ((∀ q ∈ sent, q.isLost = false) →
      ∀ t : Transmission, t.result = .ok replies →
        ∃ later, Proceeds commands t answered later result final) := by
  have hmovedTo := movedTo_of_moved? hmoved
  obtain ⟨asked, hsearched, hasked⟩ := Discovery.onlyAsks_refresh answered
  rcases hsearch : (Discovery.refresh : Call σ _).run.run answered with ⟨found, searched⟩
  have htry := Discovery.run_tryRefresh answered
  rw [hsearch] at htry hsearched
  rw [Fallible.run_bind_of_ok htry] at hrun
  cases hnode : NodeAddress.ofText redirect.address with
  | error fault =>
    have hfails : (redirect.node : Call σ _).run.run searched =
        (.error (.protocol (.unusableRedirect redirect.address)), searched) := by
      rw [Redirect.node, hnode]
      rfl
    rw [Fallible.run_bind_of_error hfails] at hrun
    cases hrun
    exact ⟨asked, hsearched, fun hkept t hresult =>
      ⟨[], .astray hresult hmovedTo hsearch hsearched (hasked hkept) hnode⟩⟩
  | ok node =>
    have hfinds : (redirect.node : Call σ _).run.run searched = (.ok node, searched) := by
      rw [Redirect.node, hnode]
      rfl
    rw [Fallible.run_bind_of_ok hfinds] at hrun
    obtain ⟨last, hfinal, hlast⟩ := sends_last settings commands node searched
    rw [hrun] at hfinal hlast
    refine ⟨asked ++ last, ?_, fun hkept t hresult => ?_⟩
    · rw [hfinal, hsearched, List.append_assoc]
    · obtain ⟨haskedKept, hlastKept⟩ := List.forall_mem_append.1 hkept
      obtain ⟨t', rfl, rfl, hframe, hsettles⟩ := hlast hlastKept
      exact ⟨[t'], .again hresult hmovedTo hsearch hsearched (hasked haskedKept) hnode hframe hfinal
        hsettles⟩

/-- What is done from the node of a transaction on: the first frame, and all that follows it. -/
theorem proceeds_of_node {node : NodeAddress}
    (hrun : (carryOut settings commands node).run.run planned = (result, final)) :
    ∃ sent, final.history = planned.history ++ sent ∧ ((∀ q ∈ sent, q.isLost = false) →
      ∃ t answered later, t.node = node ∧ t.Submits commands ∧
        answered.history = planned.history ++ [t] ∧
        Proceeds commands t answered later result final) := by
  unfold carryOut at hrun
  obtain ⟨first, hanswered, hfirst⟩ := sends_submit settings commands node planned
  rcases hsubmit : (submit settings node commands).run.run planned with ⟨arrived, answered⟩
  rw [hsubmit] at hanswered hfirst
  cases arrived with
  | error e =>
    rw [Fallible.run_bind_of_error hsubmit] at hrun
    cases hrun
    refine ⟨first, hanswered, fun hkept => ?_⟩
    obtain ⟨t, rfl, hnode, hframe, hbrings⟩ := hfirst hkept
    refine ⟨t, _, [], hnode, hframe, hanswered, .settled ?_ (settles_of_brings hbrings)⟩
    intro replies redirect hresult
    obtain ⟨cause, hcause, -⟩ := hbrings
    rw [hcause] at hresult
    cases hresult
  | ok replies =>
    rw [Fallible.run_bind_of_ok hsubmit] at hrun
    cases hmoved : moved? commands.length replies with
    | none =>
      rw [hmoved] at hrun
      cases (run_settle commands replies).symm.trans hrun
      refine ⟨first, hanswered, fun hkept => ?_⟩
      obtain ⟨t, rfl, hnode, hframe, hresult⟩ := hfirst hkept
      refine ⟨t, _, [], hnode, hframe, hanswered, .settled ?_ (.read hresult)⟩
      rintro _ redirect hsame ⟨i, reply, hi, hreply, hmoves, -⟩
      cases hresult.symm.trans hsame
      exact moved?_eq_none_iff.1 hmoved i reply redirect hi hreply hmoves
    | some redirect =>
      rw [hmoved] at hrun
      obtain ⟨later, hfinal, hlater⟩ := proceeds_of_moved hmoved hrun
      refine ⟨first ++ later, ?_, fun hkept => ?_⟩
      · rw [hfinal, hanswered, List.append_assoc]
      · obtain ⟨hfirstKept, hlaterKept⟩ := List.forall_mem_append.1 hkept
        obtain ⟨t, rfl, hnode, hframe, hresult⟩ := hfirst hfirstKept
        obtain ⟨frames, hproceeds⟩ := hlater hlaterKept t hresult
        exact ⟨t, answered, frames, hnode, hframe, hanswered, hproceeds⟩

theorem runs_of_onCluster (hslot : commonSlot commands = .ok (some slot))
    (hrun : (onCluster settings hint commands).run.run session = (result, final))
    (hkept : ∀ q ∈ session.since final, q.isLost = false) :
    ∃ frames, Runs settings hint commands slot session frames result final := by
  rw [onCluster_eq, hslot] at hrun
  obtain ⟨queries, hplanned, hqueries⟩ :=
    Discovery.onlyAsks_routed settings (route (some slot) hint) session
  rcases hroute : (Discovery.routed settings (route (some slot) hint)).run.run session with
    ⟨routed, planned⟩
  rw [hroute] at hplanned
  cases routed with
  | error e =>
    cases (Fallible.run_bind_of_error hroute).symm.trans hrun
    rw [Session.since_eq hplanned] at hkept
    exact ⟨[], .unrouted hroute hplanned (hqueries hkept) (owner?_of_unrouted hroute)
      (Discovery.failsOnly_routed (failsOnly_route (some slot) hint) _ _ _ hroute)⟩
  | ok node =>
    obtain ⟨shard, howner, rfl⟩ := owner?_of_routed hroute
    obtain ⟨sent, hfinal, hsent⟩ :=
      proceeds_of_node ((Fallible.run_bind_of_ok hroute).symm.trans hrun)
    have hhistory : final.history = session.history ++ (queries ++ sent) := by
      rw [hfinal, hplanned, List.append_assoc]
    rw [Session.since_eq hhistory] at hkept
    obtain ⟨hqueriesKept, hsentKept⟩ := List.forall_mem_append.1 hkept
    obtain ⟨t, answered, later, hnode, hframe, hanswered, hproceeds⟩ := hsent hsentKept
    exact ⟨t :: later, .routed hroute hplanned (hqueries hqueriesKept) howner hnode hframe hanswered
      hproceeds⟩

end Transaction

namespace Client

open Transaction

variable {σ : Type} [Network σ]

/-- A transaction whose keys share a slot is sent to the primary of that slot, and once more only if
the slot has moved. It is applied at most once where it is aborted as soon as a command is not
acknowledged. -/
theorem execute_runs {settings : Settings} {hint : Option Hint} {commands : List Command}
    {slot : Nat} {session final : Session σ} {result : Except Error (List Outcome)}
    (hkeys : keySlots commands ≠ []) (hslot : ∀ s ∈ keySlots commands, s = slot)
    (hrun : ((cluster settings).execute ⟨true, commands⟩ hint).run.run session = (result, final))
    (hkept : ∀ t ∈ session.since final, t.isLost = false) :
    ∃ frames, Runs settings hint commands slot session frames result final ∧ frames.length ≤ 2 ∧
      ((∀ t ∈ frames, t.Aborts commands.length) →
        frames.countP (·.mayApply commands.length) ≤ 1) := by
  have hcluster : (onCluster settings hint commands).run.run session = (result, final) := by
    cases commands with
    | nil => exact absurd rfl hkeys
    | cons command rest => exact hrun
  obtain ⟨frames, hruns⟩ := runs_of_onCluster (commonSlot_eq_some hkeys hslot) hcluster hkept
  exact ⟨frames, hruns, hruns.applied_once⟩

/-- A transaction that only reads, whose slot has moved to the other node. The search for a newer
topology finds none. -/
theorem execute_runs_moved :
    let session := Pipeline.halves ["-ERR\r\n", "+OK\r\n+QUEUED\r\n*1\r\n$1\r\nx\r\n"]
      ["+OK\r\n-MOVED 15495 lower:1\r\n-EXECABORT\r\n", "-ERR\r\n"]
    let commands : List Command := [⟨"GET", [.text "a"]⟩]
    let concluded := ((cluster {}).execute ⟨true, commands⟩ (some .allNodes)).run.run session
    keySlots commands = [15495] ∧ concluded.1.isOk ∧ concluded.2.log.length = 4 ∧
      ∃ frames, Runs {} (some .allNodes) commands 15495 session frames concluded.1 concluded.2 ∧
        frames.length ≤ 2 := by
  intro session commands concluded
  have hslots : keySlots commands = [15495] := by decide +kernel
  have hkeys : keySlots commands ≠ [] := by simp [hslots]
  have hslot : ∀ s ∈ keySlots commands, s = 15495 := by simp [hslots]
  have hrun : ((cluster {}).execute ⟨true, commands⟩ (some .allNodes)).run.run session =
    (concluded.1, concluded.2) := (Prod.eta concluded).symm
  have hkept : ∀ t ∈ session.since concluded.2, t.isLost = false := by decide +kernel
  obtain ⟨frames, hruns, hlength, -⟩ := execute_runs hkeys hslot hrun hkept
  exact ⟨hslots, by decide +kernel, by decide +kernel, frames, hruns, hlength⟩

end Client

end ClusterBatch
