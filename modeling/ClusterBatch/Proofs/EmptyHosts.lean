import ClusterBatch.Proofs.SlotsReplies

/-!
# Empty hosts

A node that is asked for the slots may leave its own host empty. The host under which it was asked
then stands in, as if the reply had named it in every such place: everything else in the reply is
read and checked as before, so that the same topology is found or the same fault. No address that
is found has an empty host.

Main statements: `Topology.ofReply_some` and `Topology.ofReply_substitutes`.
-/

namespace ClusterBatch

namespace Reply

/-- The members of an array, a set or a push; any other reply has none. -/
def members (reply : Reply) : List Reply := reply.items?.getD []

/-- The hosts that a reply about the slots lists: what comes first in the entry of each node, the
nodes being what stands behind the two slots in the entry of each range. -/
def hosts (reply : Reply) : List Reply :=
  reply.members.flatMap fun entry => (entry.members.drop 2).filterMap (·.members.head?)

def mapPayload (change : Bytes → Bytes) : Reply → Reply
  | .simple text => .simple (change text)
  | .bulk data => .bulk (change data)
  | .bigNumber text => .bigNumber (change text)
  | .verbatim format data => .verbatim format (change data)
  | reply => reply

def mapMembers (change : List Reply → List Reply) : Reply → Reply
  | .array items => .array (change items)
  | .set items => .set (change items)
  | .push items => .push (change items)
  | reply => reply

/-- A text with the given host in place of an empty one, the kind of text being the same. -/
def fillHost (host : String) : Reply → Reply :=
  mapPayload fun text => if text = [] then Utf8.encode host else text

def fillNode (host : String) : Reply → Reply := mapMembers (List.modifyHead (fillHost host))

def fillEntry (host : String) : Reply → Reply :=
  mapMembers fun items => items.take 2 ++ (items.drop 2).map (fillNode host)

def fillHosts (host : String) : Reply → Reply := mapMembers (List.map (fillEntry host))

variable {host : String} {reply : Reply}

@[simp] theorem payload?_mapPayload (change : Bytes → Bytes) (reply : Reply) :
    (reply.mapPayload change).payload? = reply.payload?.map change := by
  cases reply <;> rfl

@[simp] theorem items?_mapMembers (change : List Reply → List Reply) (reply : Reply) :
    (reply.mapMembers change).items? = reply.items?.map change := by
  cases reply <;> rfl

theorem mapMembers_eq_self {change : List Reply → List Reply}
    (h : change reply.members = reply.members) : reply.mapMembers change = reply := by
  cases reply with
  | array items => exact congrArg array h
  | set items => exact congrArg set h
  | push items => exact congrArg push h
  | _ => rfl

theorem fillHost_eq_self (h : reply.payload? ≠ some []) : reply.fillHost host = reply := by
  cases reply <;> simp_all [fillHost, mapPayload, payload?]

theorem map_eq_self {items : List Reply} {change : Reply → Reply}
    (h : ∀ item ∈ items, change item = item) : items.map change = items :=
  (List.map_congr_left h).trans (List.map_id _)

/-- Where no host is empty, nothing is replaced. -/
theorem fillHosts_eq_self (h : ∀ named ∈ reply.hosts, named.payload? ≠ some []) :
    reply.fillHosts host = reply := by
  refine mapMembers_eq_self (map_eq_self fun entry hentry => mapMembers_eq_self ?_)
  have hnodes : (entry.members.drop 2).map (fillNode host) = entry.members.drop 2 := by
    refine map_eq_self fun node hnode => mapMembers_eq_self ?_
    match hmembers : node.members with
    | [] => rfl
    | named :: rest =>
      have hnamed : named ∈ reply.hosts :=
        List.mem_flatMap.2 ⟨entry, hentry, List.mem_filterMap.2 ⟨node, hnode, hmembers ▸ rfl⟩⟩
      rw [List.modifyHead_cons, fillHost_eq_self (h named hnamed)]
  rw [hnodes, List.take_append_drop]

end Reply

namespace Topology

open Reply

variable {host : String} {reply : Reply} {topology : Topology}

/-- It only matters for an empty text which host stands in. -/
theorem readHost_congr {reporter other : Option String} (h : reply.payload? ≠ some []) :
    readHost reporter reply = readHost other reply := by
  unfold readHost
  match htext : reply.payload?.bind Utf8.decode? with
  | none => rfl
  | some text =>
    have hne : ¬text.isEmpty := by
      intro hempty
      obtain ⟨payload, hpayload, hdecode⟩ := Option.bind_eq_some_iff.1 htext
      rw [String.isEmpty_iff.1 hempty] at hdecode
      exact h (hpayload.trans (congrArg some (Utf8.eq_encode_of_decode? hdecode)))
    simp only [hne]
    rfl

theorem readHost_some (hne : host ≠ "") (reply : Reply) :
    readHost (some host) reply = readHost none (reply.fillHost host) := by
  by_cases hpayload : reply.payload? = some []
  · have hempty : Utf8.decode? [] = some "" := rfl
    have hhost : ¬host.isEmpty := fun hempty => hne (String.isEmpty_iff.1 hempty)
    simp [readHost, fillHost, hpayload, hempty, hhost]
  · rw [fillHost_eq_self hpayload, readHost_congr hpayload]

theorem readNode_some (hne : host ≠ "") :
    readNode (some host) = readNode none ∘ fillNode host := by
  funext reply
  unfold readNode
  rw [Function.comp_apply, fillNode, items?_mapMembers]
  match reply.items? with
  | none | some [] | some [_] => rfl
  | some (first :: port :: rest) =>
    simp only [Option.map_some, List.modifyHead_cons, readHost_some hne]

theorem readShard_some (hne : host ≠ "") :
    readShard (some host) = readShard none ∘ fillEntry host := by
  funext reply
  unfold readShard
  rw [Function.comp_apply, fillEntry, items?_mapMembers]
  match reply.items? with
  | none | some [] | some [_] | some [_, _] => rfl
  | some (start :: stop :: primary :: replicas) =>
    simp only [Option.map_some, List.take_succ_cons, List.take_zero, List.drop_succ_cons,
      List.drop_zero, List.map_cons, List.cons_append, List.nil_append, List.mapM_map,
      readNode_some hne, Function.comp_apply]

/-- The host that stands in does so by substitution only, and the same faults are found. -/
theorem ofReply_some (hne : host ≠ "") (reply : Reply) :
    ofReply (some host) reply = ofReply none (reply.fillHosts host) := by
  unfold ofReply
  rw [fillHosts, items?_mapMembers]
  cases reply.items? with
  | none => rfl
  | some entries => simp only [Option.map_some, List.mapM_map, readShard_some hne]

theorem host_ne_of_describesNode {node : NodeAddress} (h : reply.DescribesNode none node) :
    node.host ≠ "" := by
  obtain ⟨_, _, _, _, -, -, hnames, -⟩ := h
  cases hnames with
  | given hne => exact hne
  | omitted hnone => cases hnone

/-- Where no host stands in, none that is found is empty. -/
theorem host_ne_of_ofReply (h : ofReply none reply = .ok topology) :
    ∀ shard ∈ topology.shards, ∀ node ∈ shard.primary :: shard.replicas, node.host ≠ "" := by
  obtain ⟨shards, ⟨entries, -, hshards⟩, -, hperm, -⟩ := ofReply_eq_ok_iff.1 h
  intro shard hshard node hnode
  obtain ⟨entry, -, hentry⟩ := exists_mem_of_forall₂ hshards (hperm.mem_iff.1 hshard)
  obtain ⟨_, _, _, _, -, -, -, -, hprimary, hreplicas⟩ := hentry
  rcases List.mem_cons.1 hnode with rfl | hnode
  · exact host_ne_of_describesNode hprimary
  · obtain ⟨replica, -, hreplica⟩ := exists_mem_of_forall₂ hreplicas hnode
    exact host_ne_of_describesNode hreplica

/-- A directory reads a reply as if its empty hosts were that of the node that was asked, and those
replies which name all hosts as they are; with the fault that is found then, if there is one. It
finds no address with an empty host. -/
theorem ofReply_substitutes {reporter : NodeAddress} (hne : reporter.host ≠ "") (reply : Reply) :
    (ofReply (some reporter.host) reply).mapError (fun fault => .discovery (.malformed fault)) =
        ofSlotsReply (reply.fillHosts reporter.host) ∧
      ((∀ host ∈ reply.hosts, host.payload? ≠ some []) →
        (ofReply (some reporter.host) reply).mapError (fun fault => .discovery (.malformed fault)) =
          ofSlotsReply reply) ∧
      ∀ topology, ofReply (some reporter.host) reply = .ok topology →
        ∀ shard ∈ topology.shards, ∀ node ∈ shard.primary :: shard.replicas, node.host ≠ "" := by
  rw [ofReply_some hne]
  refine ⟨rfl, fun hhosts => ?_, fun topology => host_ne_of_ofReply⟩
  rw [fillHosts_eq_self hhosts]
  rfl

/-- A primary and a replica of different shards without a host; the reply is refused where no host
stands in. -/
theorem ofReply_substitutes_seed :
    let reporter : NodeAddress := ⟨"seed", 7⟩
    let reply (first second : Reply) : Reply := .push [
      .array [.integer 6, .integer 9, .set [.bulk [98], .integer 8], .array [second, .bulk [57]]],
      .set [.integer 0, .integer 5, .array [first, .integer 7, .null]]]
    let empty := reply (.verbatim ⟨116, 120, 116⟩ []) (.simple [])
    let named :=
      reply (.verbatim ⟨116, 120, 116⟩ (Utf8.encode "seed")) (.simple (Utf8.encode "seed"))
    let topology : Topology :=
      { shards := [⟨0, 5, ⟨"seed", 7⟩, []⟩, ⟨6, 9, ⟨"b", 8⟩, [⟨"seed", 9⟩]⟩] }
    ofSlotsReply empty = .error (.discovery (.malformed .emptyHost)) ∧
      empty.fillHosts reporter.host = named ∧ ofReply (some reporter.host) empty = .ok topology ∧
      (∀ shard ∈ topology.shards, ∀ node ∈ shard.primary :: shard.replicas, node.host ≠ "") ∧
      ofSlotsReply named = .ok topology ∧ ofReply (some reporter.host) named = .ok topology := by
  intro reporter reply empty named topology
  have hne : reporter.host ≠ "" := by decide
  obtain ⟨hempty, -, hhosts⟩ := ofReply_substitutes hne empty
  obtain ⟨-, hnamed, -⟩ := ofReply_substitutes hne named
  have hpairs : topology.shards.Pairwise Shard.Precedes := by simp [topology, Shard.Precedes]
  have hread : ofReply (some reporter.host) empty = .ok topology :=
    ofReply_of_mapM rfl (by decide +kernel) rfl (.swap _ _ _) hpairs
  have hagain : ofReply (some reporter.host) named = .ok topology :=
    ofReply_of_mapM rfl (by decide +kernel) rfl (.swap _ _ _) hpairs
  have hhost : ∀ host ∈ named.hosts, host.payload? ≠ some [] := by decide +kernel
  rw [hread] at hempty
  rw [hagain] at hnamed
  exact ⟨rfl, rfl, hread, hhosts topology hread, (hnamed hhost).symm, hagain⟩

end Topology

end ClusterBatch
