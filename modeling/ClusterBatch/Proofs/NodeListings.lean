import ClusterBatch.Proofs.RoutingRules

/-!
# Listings of nodes

One node may be the primary of several ranges, a replica of several, or both. It is listed once,
where it first occurs: in the list of primaries, and behind these in the list of all nodes, if it is
a replica only. Such a list grows as the shards are gone through, each node being added at the end
unless it is there already; at every point it lists what has been looked at so far.

Main statements: `listsOnce_foldl_addNew` and `Topology.nodes_listed`.
-/

namespace ClusterBatch

section Growth

variable {α : Type} [DecidableEq α] {source listed other : List α}

def addNew (listed : List α) (a : α) : List α := if a ∈ listed then listed else listed ++ [a]

theorem listsOnce_nil : ListsOnce ([] : List α) [] := ⟨fun _ => Iff.rfl, .nil⟩

theorem listsOnce_addNew (h : ListsOnce source listed) (a : α) :
    ListsOnce (source ++ [a]) (addNew listed a) := by
  -- What is appended to the source leaves the places of earlier members alone.
  have hplace {b : α} (hb : b ∈ listed) : (source ++ [a]).idxOf b = source.idxOf b :=
    List.idxOf_append_of_mem ((h.mem_iff b).1 hb)
  have hordered : listed.Pairwise fun b c => (source ++ [a]).idxOf b < (source ++ [a]).idxOf c := by
    refine h.ordered.imp_of_mem fun hb hc hlt => ?_
    rwa [hplace hb, hplace hc]
  unfold addNew
  split
  · next hmem =>
    refine ⟨fun b => ?_, hordered⟩
    rw [h.mem_iff, List.mem_append, List.mem_singleton, or_iff_left_of_imp]
    rintro rfl
    exact (h.mem_iff b).1 hmem
  · next hnew =>
    refine ⟨fun b => by simp only [List.mem_append, h.mem_iff], ?_⟩
    refine List.pairwise_append.2 ⟨hordered, List.pairwise_singleton _ a, fun b hb c hc => ?_⟩
    obtain rfl := List.mem_singleton.1 hc
    have hlast : (source ++ [c]).idxOf c = source.length := by
      rw [List.idxOf_append_of_notMem (mt (h.mem_iff c).2 hnew), List.idxOf_cons_self, Nat.add_zero]
    rw [hplace hb, hlast]
    exact List.idxOf_lt_length_of_mem ((h.mem_iff b).1 hb)

theorem listsOnce_foldl_addNew (h : ListsOnce source listed) (more : List α) :
    ListsOnce (source ++ more) (more.foldl addNew listed) := by
  induction more generalizing source listed with
  | nil => rwa [List.append_nil]
  | cons a more ih =>
    rw [List.append_cons]
    exact ih (listsOnce_addNew h a)

/-- There is one order of first occurrence only. -/
theorem ListsOnce.unique (h : ListsOnce source listed) (hother : ListsOnce source other) :
    listed = other := by
  have hperm : listed.Perm other := (List.perm_ext_iff_of_nodup h.nodup hother.nodup).2
    fun a => (h.mem_iff a).trans (hother.mem_iff a).symm
  refine hperm.eq_of_pairwise ?_ h.ordered hother.ordered
  exact fun _ _ _ _ hbefore hafter => absurd hbefore (Nat.lt_asymm hafter)

end Growth

namespace Topology

/-- The primaries are listed once each, in the order of their first shards, and then the replicas
that are no primaries, in the order of theirs. So each node of any shard is listed exactly once.
Both lists are what becomes of going through the nodes and adding each that is new. -/
theorem nodes_listed (topology : Topology) :
    let primaries := topology.shards.map Shard.primary
    let replicas := topology.shards.flatMap Shard.replicas
    topology.primaries.Nodup ∧ ListsOnce primaries topology.primaries ∧
      topology.nodes.Nodup ∧
      (∃ others, topology.nodes = topology.primaries ++ others ∧
        (∀ node, node ∈ others ↔ node ∈ replicas ∧ node ∉ primaries) ∧
        others.Pairwise fun a b => replicas.idxOf a < replicas.idxOf b) ∧
      (∀ node, topology.containsNode node ↔ node ∈ topology.nodes) ∧
      topology.primaries = primaries.foldl addNew [] ∧
      topology.nodes = replicas.foldl addNew topology.primaries := by
  intro primaries replicas
  have hprimaries : ListsOnce primaries topology.primaries := listsOnce_distinct primaries
  have hnodes : ListsOnce (primaries ++ replicas) topology.nodes := listsOnce_distinct _
  refine ⟨hprimaries.nodup, hprimaries, hnodes.nodup, ?_, ?_, ?_, ?_⟩
  · refine ⟨(distinct replicas).filter (· ∉ primaries), distinct_append _ _, fun node => ?_, ?_⟩
    · rw [List.mem_filter, mem_distinct, decide_eq_true_iff]
    · exact (listsOnce_distinct replicas).ordered.filter _
  · exact fun node => containsNode_iff.trans mem_nodes_iff.symm
  · exact hprimaries.unique (listsOnce_foldl_addNew listsOnce_nil primaries)
  · exact hnodes.unique (listsOnce_foldl_addNew hprimaries replicas)

/-- A primary of two ranges that is a replica too, and replicas of several ranges. -/
example :
    let node (host : String) : NodeAddress := ⟨host, 7⟩
    let topology : Topology := { shards := [⟨0, 5, node "b", [node "d", node "a"]⟩,
      ⟨6, 7, node "a", [node "c", node "d"]⟩, ⟨8, 9, node "b", [node "a", node "c"]⟩] }
    topology.primaries = [node "b", node "a"] ∧
      topology.nodes = [node "b", node "a", node "d", node "c"] := by
  decide

end Topology

end ClusterBatch
