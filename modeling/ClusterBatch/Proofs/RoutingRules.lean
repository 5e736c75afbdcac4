import ClusterBatch.Assignment
import ClusterBatch.Proofs.Fallible
import ClusterBatch.Proofs.SlotsReplies
import Mathlib.Data.List.GetD

/-!
# Rules of routing

A command with keys goes to a single node of the shard that serves the slot of the first key, and
the hint is of no concern. That node is the primary, unless the command only reads, the policy
prefers replicas and the shard has some; then it is one of them. A command without keys goes where
the hint says. Whatever the state of the router, no command goes to a node that the topology does
not name, except where the caller names the node.

Main statement: `Router.nodesFor_follows`.
-/

namespace ClusterBatch

namespace Shard

def IsServedBy (shard : Shard) (node : NodeAddress) : Prop :=
  node = shard.primary ∨ node ∈ shard.replicas

/-- A node may be chosen among those of a shard: one of the replicas for a command that only reads,
if the policy allows it and there are any, and the primary otherwise. -/
def Elects (shard : Shard) (policy : ReadPolicy) (readOnly : Bool) (node : NodeAddress) : Prop :=
  if readOnly ∧ policy ≠ .primary ∧ shard.replicas ≠ [] then node ∈ shard.replicas
  else node = shard.primary

variable {shard : Shard} {policy : ReadPolicy} {readOnly : Bool} {node : NodeAddress}

theorem Elects.isServedBy (h : shard.Elects policy readOnly node) : shard.IsServedBy node := by
  unfold Elects at h
  split at h
  · exact .inr h
  · exact .inl h

theorem elects_primary (h : policy = .primary ∨ readOnly = false ∨ shard.replicas = []) :
    shard.Elects policy readOnly shard.primary := by
  unfold Elects
  rw [if_neg]
  rintro ⟨hread, hpolicy, hreplicas⟩
  obtain h | h | h := h
  · exact hpolicy h
  · simp [h] at hread
  · exact hreplicas h

theorem elects_replica (hread : readOnly = true) (hpolicy : policy ≠ .primary)
    (h : node ∈ shard.replicas) : shard.Elects policy readOnly node := by
  unfold Elects
  rw [if_pos ⟨hread, hpolicy, List.ne_nil_of_mem h⟩]
  exact h

end Shard

namespace Topology

variable {topology : Topology} {node : NodeAddress}

theorem containsNode_iff :
    topology.containsNode node ↔ ∃ shard ∈ topology.shards, shard.IsServedBy node := by
  simp only [containsNode, Shard.IsServedBy, List.any_eq_true, Bool.or_eq_true, decide_eq_true_eq,
    eq_comm (a := node)]

theorem mem_primaries_iff :
    node ∈ topology.primaries ↔ ∃ shard ∈ topology.shards, node = shard.primary := by
  simp [primaries, eq_comm]

theorem mem_nodes_iff :
    node ∈ topology.nodes ↔ ∃ shard ∈ topology.shards, shard.IsServedBy node := by
  simp only [nodes, mem_distinct, List.mem_append, List.mem_map, List.mem_flatMap,
    Shard.IsServedBy]
  grind

theorem holds_of_ofReply {reporter : Option String} {reply : Reply} {read : Topology}
    (hread : ofReply reporter reply = .ok read) (hshards : topology.shards = read.shards) :
    topology.Holds topology.shards := by
  obtain ⟨shards, hdescribes, -, hperm, hpairs⟩ := ofReply_eq_ok_iff.1 hread
  rw [← hshards] at hperm hpairs
  have hproper : ∀ shard ∈ topology.shards, shard.IsProper := fun shard hshard =>
    proper_of_describesShards hdescribes shard (hperm.mem_iff.1 hshard)
  exact holds_of_precedes hproper (.refl _) hpairs

end Topology

/-- What is decided for a slot: a node of the one shard that serves it, and a gap if there is no
such shard. -/
structure GoesBySlot (topology : Topology) (policy : ReadPolicy) (readOnly : Bool) (slot : Nat)
    (result : Except Error (List NodeAddress)) : Prop where
  served : ∀ shard ∈ topology.shards, shard.contains slot →
    (∀ other ∈ topology.shards, other.contains slot → other = shard) ∧
      ∃ node, result = .ok [node] ∧ shard.Elects policy readOnly node
  gap_iff : result = .error (.topologyGap slot) ↔
    ∀ shard ∈ topology.shards, ¬shard.contains slot
  only_gap : ∀ e, result = .error e → e = .topologyGap slot

/-- What is decided for a command without keys, by the hint: one primary, all of them or all nodes,
each once, a node for the slot of a key, or the node that the caller names. -/
def GoesByHint (topology : Topology) (policy : ReadPolicy) (readOnly : Bool)
    (result : Except Error (List NodeAddress)) : Option Hint → Prop
  | none | some .random => ∃ shard ∈ topology.shards, result = .ok [shard.primary]
  | some .allPrimaries => ∃ nodes, result = .ok nodes ∧ nodes.Nodup ∧
    ∀ node, node ∈ nodes ↔ ∃ shard ∈ topology.shards, node = shard.primary
  | some .allNodes => ∃ nodes, result = .ok nodes ∧ nodes.Nodup ∧
    ∀ node, node ∈ nodes ↔ ∃ shard ∈ topology.shards, shard.IsServedBy node
  | some (.slotKey key) => GoesBySlot topology policy readOnly (Slot.ofKey key) result
  | some (.address node) => result = .ok [node]

namespace Router

variable {topology : Topology} {router after : Router} {slot : Nat} {readOnly : Bool}

def nodesFor (topology : Topology) (hint : Option Hint) (command : Command) :
    Routing (List NodeAddress) := do
  resolve topology (← route topology command hint)

/-- Whatever the place in the rotation and the draws, a shard's node is chosen by the policy. -/
theorem select_elects (shard : Shard) (readOnly : Bool) (router : Router) :
    shard.Elects router.policy readOnly (select shard readOnly router).1 := by
  unfold select
  split
  · next h =>
    refine Shard.elects_primary (.inr ?_)
    simpa using h
  · next h =>
    obtain ⟨hread, hreplicas⟩ : readOnly = true ∧ shard.replicas ≠ [] := by simpa using h
    have hlength : 0 < shard.replicas.length := List.length_pos_iff.2 hreplicas
    have hmem {i : Nat} (hi : i < shard.replicas.length) :
        shard.replicas.getD i shard.primary ∈ shard.replicas := by
      rw [List.getD_eq_getElem _ _ hi]
      exact List.getElem_mem hi
    split
    · next hpolicy => exact Shard.elects_primary (.inl hpolicy)
    · next hpolicy =>
      exact Shard.elects_replica hread (by simp [hpolicy]) (hmem (Nat.mod_lt _ hlength))
    · next hpolicy =>
      exact Shard.elects_replica hread (by simp [hpolicy]) (hmem (Draws.below_lt _ hlength))

theorem run_slotTarget (topology : Topology) (slot : Nat) (readOnly : Bool) (router : Router) :
    (slotTarget topology slot readOnly).run.run router =
      match topology.owner? slot with
      | some shard =>
        (.ok (.serving (select shard readOnly router).1), (select shard readOnly router).2)
      | none => (.error (.topologyGap slot), router) := by
  unfold slotTarget Topology.lookup
  cases topology.owner? slot <;> rfl

/-- A slot is decided for by its shard, and by nothing else. -/
theorem goesBySlot (h : topology.Holds topology.shards) (slot : Nat) (readOnly : Bool)
    (router : Router) :
    GoesBySlot topology router.policy readOnly slot
      ((slotTarget topology slot readOnly >>= resolve topology).run.run router).1 := by
  have htarget := run_slotTarget topology slot readOnly router
  cases howner : topology.owner? slot with
  | some shard =>
    rw [howner] at htarget
    rw [Fallible.run_bind_of_ok htarget]
    obtain ⟨hmem, hcontains⟩ := (h.owner_iff slot shard).1 howner
    have hunique : ∀ other ∈ topology.shards, other.contains slot → other = shard := by
      intro other hother hslot
      have hown := (h.owner_iff slot other).2 ⟨hother, hslot⟩
      exact Option.some.inj (hown.symm.trans howner)
    refine ⟨?_, ⟨nofun, fun hgap => absurd hcontains (hgap shard hmem)⟩, nofun⟩
    intro other hother hslot
    obtain rfl := hunique other hother hslot
    exact ⟨hunique, _, rfl, select_elects other readOnly router⟩
  | none =>
    rw [howner] at htarget
    rw [Fallible.run_bind_of_error htarget]
    have hgap : ∀ shard ∈ topology.shards, ¬shard.contains slot := by
      intro shard hmem hcontains
      cases howner.symm.trans ((h.owner_iff slot shard).2 ⟨hmem, hcontains⟩)
    refine ⟨fun shard hmem hslot => absurd hslot (hgap shard hmem), ?_, ?_⟩
    · exact ⟨fun _ => hgap, fun _ => rfl⟩
    · intro e he
      cases he
      rfl

theorem exists_shard (h : ¬topology.isEmpty) : ∃ shard, shard ∈ topology.shards :=
  List.exists_mem_of_ne_nil _ fun hnil => h (by simp [Topology.isEmpty, hnil])

/-- Whatever the draws, one of the primaries is drawn. -/
theorem run_randomPrimary (h : ¬topology.isEmpty) (router : Router) :
    ∃ shard ∈ topology.shards,
      ((randomPrimary topology).run.run router).1 = .ok shard.primary := by
  obtain ⟨shard, hshard⟩ := exists_shard h
  have hprimary : shard.primary ∈ topology.primaries :=
    Topology.mem_primaries_iff.2 ⟨shard, hshard, rfl⟩
  unfold randomPrimary
  split
  · next hnil => simp [hnil] at hprimary
  · next first rest hprimaries =>
    have hlt := Draws.below_lt router.draws (Nat.succ_pos rest.length)
    have hmem : (first :: rest).getD (router.draws.below (rest.length + 1)).1 first ∈
        topology.primaries := by
      rw [hprimaries, List.getD_eq_getElem _ _ hlt]
      exact List.getElem_mem _
    obtain ⟨drawn, hdrawn, heq⟩ := Topology.mem_primaries_iff.1 hmem
    exact ⟨drawn, hdrawn, congrArg Except.ok heq⟩

theorem run_ofNodes {nodes : List NodeAddress} (h : nodes ≠ []) (router : Router) :
    (resolve.ofNodes nodes).run.run router = (.ok nodes, router) := by
  rw [resolve.ofNodes, if_neg (by simpa using h)]
  rfl

/-- A command without keys goes where the hint says. -/
theorem goesByHint {command : Command} (h : topology.Holds topology.shards)
    (hempty : ¬topology.isEmpty) (hkeys : command.keys = []) (hint : Option Hint)
    (router : Router) :
    GoesByHint topology router.policy command.isReadOnly
      ((nodesFor topology hint command).run.run router).1 hint := by
  have hfirst : command.firstKey? = none := by rw [Command.firstKey?, hkeys, List.head?_nil]
  have hrandom : ∃ shard ∈ topology.shards,
      ((resolve topology .random).run.run router).1 = .ok [shard.primary] := by
    obtain ⟨shard, hshard, hdrawn⟩ := run_randomPrimary hempty router
    exact ⟨shard, hshard,
      congrArg Prod.fst (Fallible.run_bind_of_ok (Prod.ext hdrawn rfl))⟩
  obtain ⟨shard, hshard⟩ := exists_shard hempty
  unfold nodesFor route
  rw [hfirst]
  match hint with
  | none => exact hrandom
  | some .random => exact hrandom
  | some .allPrimaries =>
    have hmem := Topology.mem_primaries_iff.2 ⟨shard, hshard, rfl⟩
    refine ⟨topology.primaries, ?_, nodup_distinct _, fun _ => Topology.mem_primaries_iff⟩
    exact congrArg Prod.fst (run_ofNodes (List.ne_nil_of_mem hmem) router)
  | some .allNodes =>
    have hmem := Topology.mem_nodes_iff.2 ⟨shard, hshard, .inl rfl⟩
    refine ⟨topology.nodes, ?_, nodup_distinct _, fun _ => Topology.mem_nodes_iff⟩
    exact congrArg Prod.fst (run_ofNodes (List.ne_nil_of_mem hmem) router)
  | some (.slotKey key) => exact goesBySlot h (Slot.ofKey key) command.isReadOnly router
  | some (.address node) => rfl

/-- Without shards there is no node but the one that the caller names. -/
theorem ne_ok_of_isEmpty {command : Command} {hint : Option Hint} (hempty : topology.isEmpty)
    (hkeys : command.keys = []) (hhint : ∀ node, hint ≠ some (.address node))
    (nodes : List NodeAddress) :
    ((nodesFor topology hint command).run.run router).1 ≠ .ok nodes := by
  have hfirst : command.firstKey? = none := by rw [Command.firstKey?, hkeys, List.head?_nil]
  obtain ⟨epoch, shards⟩ := topology
  obtain rfl : shards = [] := List.isEmpty_iff.1 hempty
  unfold nodesFor route
  rw [hfirst]
  match hint with
  | none => exact nofun
  | some .random => exact nofun
  | some .allPrimaries => exact nofun
  | some .allNodes => exact nofun
  | some (.slotKey key) => exact nofun
  | some (.address node) => exact absurd rfl (hhint node)

end Router

/-! ## What is not named is not chosen -/

theorem GoesBySlot.containsNode {topology : Topology} {policy : ReadPolicy} {readOnly : Bool}
    {slot : Nat} {nodes : List NodeAddress}
    (h : GoesBySlot topology policy readOnly slot (.ok nodes)) :
    ∀ node ∈ nodes, topology.containsNode node := by
  have hserved : ¬∀ shard ∈ topology.shards, ¬shard.contains slot := fun hgap => by
    cases h.gap_iff.2 hgap
  push Not at hserved
  obtain ⟨shard, hshard, hcontains⟩ := hserved
  obtain ⟨-, node, hnode, helects⟩ := h.served shard hshard hcontains
  cases hnode
  simpa [Topology.containsNode_iff] using ⟨shard, hshard, helects.isServedBy⟩

theorem GoesByHint.containsNode {topology : Topology} {policy : ReadPolicy} {readOnly : Bool}
    {hint : Option Hint} {nodes : List NodeAddress}
    (h : GoesByHint topology policy readOnly (.ok nodes) hint)
    (hhint : ∀ node, hint ≠ some (.address node)) :
    ∀ node ∈ nodes, topology.containsNode node := by
  have hprimary {shard : Shard} (hshard : shard ∈ topology.shards) :
      topology.containsNode shard.primary :=
    Topology.containsNode_iff.2 ⟨shard, hshard, .inl rfl⟩
  match hint, h with
  | none, ⟨shard, hshard, hnodes⟩ | some .random, ⟨shard, hshard, hnodes⟩ =>
    cases hnodes
    simpa using hprimary hshard
  | some .allPrimaries, ⟨_, hnodes, _, hmem⟩ =>
    cases hnodes
    intro node hnode
    obtain ⟨shard, hshard, rfl⟩ := (hmem node).1 hnode
    exact hprimary hshard
  | some .allNodes, ⟨_, hnodes, _, hmem⟩ =>
    cases hnodes
    exact fun node hnode => Topology.containsNode_iff.2 ((hmem node).1 hnode)
  | some (.slotKey key), h => exact GoesBySlot.containsNode h
  | some (.address node), _ => exact absurd rfl (hhint node)

namespace Router

/-- Against a topology that a reply gives, a command with keys goes by the slot of the first one,
whatever the hint, and a command without keys by the hint. No command goes to a node that the
topology does not name, unless the caller names it for a command without keys. -/
theorem nodesFor_follows {reporter : Option String} {reply : Reply} {read topology : Topology}
    (hread : Topology.ofReply reporter reply = .ok read) (hshards : topology.shards = read.shards)
    (router : Router) (command : Command) (hint : Option Hint) :
    let result := ((nodesFor topology hint command).run.run router).1
    (∀ key rest, command.keys = key :: rest →
        GoesBySlot topology router.policy command.isReadOnly (Slot.ofKey key) result) ∧
      (command.keys = [] → ¬topology.isEmpty →
        GoesByHint topology router.policy command.isReadOnly result hint) ∧
      (∀ nodes, result = .ok nodes →
        command.keys ≠ [] ∨ (∀ address, hint ≠ some (.address address)) →
          ∀ node ∈ nodes, topology.containsNode node) := by
  intro result
  have hholds := Topology.holds_of_ofReply hread hshards
  have hkeyed (key : Bytes) (rest : List Bytes) (hkeys : command.keys = key :: rest) :
      GoesBySlot topology router.policy command.isReadOnly (Slot.ofKey key) result := by
    have hfirst : command.firstKey? = some key := by
      rw [Command.firstKey?, hkeys, List.head?_cons]
    have hresult := goesBySlot hholds (Slot.ofKey key) command.isReadOnly router
    unfold result nodesFor route
    rw [hfirst]
    exact hresult
  have hkeyless (hkeys : command.keys = []) (hempty : ¬topology.isEmpty) :
      GoesByHint topology router.policy command.isReadOnly result hint :=
    goesByHint hholds hempty hkeys hint router
  refine ⟨hkeyed, hkeyless, ?_⟩
  intro nodes hnodes hnamed
  cases hkeys : command.keys with
  | cons key rest => exact GoesBySlot.containsNode (hnodes ▸ hkeyed key rest hkeys)
  | nil =>
    have hhint := hnamed.resolve_left fun hne => hne hkeys
    by_cases hempty : topology.isEmpty
    · exact absurd hnodes (ne_ok_of_isEmpty hempty hkeys hhint nodes)
    · exact GoesByHint.containsNode (hnodes ▸ hkeyless hkeys hempty) hhint

/-- A command that only reads, for a slot at the end of the later of two ranges. That range has a
replica, and the hint names a node of no shard. -/
theorem nodesFor_follows_replica :
    let node (host : Bytes) : Reply := .array [.bulk host, .integer 7]
    let reply := .array [.array [.integer 12182, .integer 12182, node [98], node [99], node [100]],
      .array [.integer 0, .integer 12181, node [97]]]
    let topology : Topology :=
      ⟨3, [⟨0, 12181, ⟨"a", 7⟩, []⟩, ⟨12182, 12182, ⟨"b", 7⟩, [⟨"c", 7⟩, ⟨"d", 7⟩]⟩]⟩
    let router : Router := { policy := .preferReplica, cursor := 5 }
    let key : Bytes := [123, 102, 111, 111, 125, 46, 98, 97, 114]
    let command : Command := ⟨"GET", [.text "\x7bfoo\x7d.bar"]⟩
    let hint : Option Hint := some (.address ⟨"e", 7⟩)
    let result := ((nodesFor topology hint command).run.run router).1
    Topology.ofReply none reply = .ok { topology with epoch := 0 } ∧ command.keys = [key] ∧
      Slot.ofKey key = 12182 ∧ command.isReadOnly ∧ result.toOption = some [⟨"d", 7⟩] ∧
      GoesBySlot topology .preferReplica command.isReadOnly (Slot.ofKey key) result ∧
      ∀ nodes, result = .ok nodes → ∀ node ∈ nodes, topology.containsNode node := by
  intro node reply topology router key command hint result
  have hread : Topology.ofReply none reply = .ok { topology with epoch := 0 } :=
    Topology.ofReply_eq_ok_iff.2 ⟨[topology.shards[1], topology.shards[0]],
      ⟨_, rfl, .cons (Topology.readShard_eq_ok_iff.1 (by decide +kernel))
        (.cons (Topology.readShard_eq_ok_iff.1 (by decide +kernel)) .nil)⟩,
      rfl, by decide, by simp [topology, Shard.Precedes]⟩
  have hkeys : command.keys = [key] := by decide +kernel
  have hshards : topology.shards = ({ topology with epoch := 0 } : Topology).shards := rfl
  obtain ⟨hkeyed, -, hnamed⟩ := nodesFor_follows hread hshards router command hint
  refine ⟨hread, hkeys, by decide +kernel, by decide +kernel, by decide +kernel,
    hkeyed key [] hkeys, fun nodes hnodes => hnamed nodes hnodes (.inl ?_)⟩
  exact hkeys ▸ List.cons_ne_nil key []

end Router

end ClusterBatch
