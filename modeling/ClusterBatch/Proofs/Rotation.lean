import ClusterBatch.Routing
import Mathlib.Data.List.GetD
import Mathlib.Data.List.Nodup
import Mathlib.Data.List.Perm.Subperm
import Mathlib.Data.List.Rotate

/-!
# Replicas in rotation

A router that prefers replicas keeps one place in the rotation, and every choice on a shard with
replicas moves it on, whichever shard that is. Choices that follow each other on one shard therefore
take its replicas in rotation. Where choices on other shards come in between, they take up turns:
then a shard is served by each of its replicas once exactly if the turns that are left to it differ
by more than whole rounds.

Main statement: `Router.choices_inTurn`.
-/

namespace ClusterBatch

namespace Shard

def hasReplicas (shard : Shard) : Bool := !shard.replicas.isEmpty

/-- The replica whose turn it is after `turn` others, counted round and round. -/
def replicaAt (shard : Shard) (turn : Nat) : NodeAddress :=
  shard.replicas.getD (turn % shard.replicas.length) shard.primary

variable {shard : Shard}

theorem replicaAt_eq_getElem {turn : Nat}
    (h : turn % shard.replicas.length < shard.replicas.length) :
    shard.replicaAt turn = shard.replicas[turn % shard.replicas.length] :=
  List.getD_eq_getElem _ _ h

/-- As many turns in a row as there are replicas take the replicas in rotation. -/
theorem map_replicaAt_range' (shard : Shard) (turn : Nat) :
    (List.range' turn shard.replicas.length).map shard.replicaAt = shard.replicas.rotate turn := by
  refine List.ext_getElem (by simp) fun i hi hi' => ?_
  have hlt : i < shard.replicas.length := by simpa using hi
  rw [List.getElem_map, List.getElem_range', Nat.one_mul, List.getElem_rotate,
    replicaAt_eq_getElem (Nat.mod_lt _ (Nat.zero_lt_of_lt hlt))]
  simp only [Nat.add_comm turn i]

theorem map_replicaAt_range (shard : Shard) :
    (List.range shard.replicas.length).map shard.replicaAt = shard.replicas := by
  rw [List.range_eq_range', map_replicaAt_range', List.rotate_zero]

/-- As many turns as there are different replicas take each of them once exactly if no two turns are
a number of whole rounds apart. -/
theorem map_replicaAt_perm_iff (hnodup : shard.replicas.Nodup) {turns : List Nat}
    (hlength : turns.length = shard.replicas.length) :
    (turns.map shard.replicaAt).Perm shard.replicas ↔
      (turns.map (· % shard.replicas.length)).Nodup := by
  have hround : turns.map shard.replicaAt =
      (turns.map (· % shard.replicas.length)).map shard.replicaAt := by
    simp [replicaAt, Function.comp_def]
  rw [hround]
  constructor
  · intro hperm
    exact List.Nodup.of_map _ (hperm.nodup_iff.2 hnodup)
  · intro hresidues
    have hsubset : turns.map (· % shard.replicas.length) ⊆ List.range shard.replicas.length := by
      intro residue hresidue
      obtain ⟨turn, hturn, rfl⟩ := List.mem_map.1 hresidue
      exact List.mem_range.2 (Nat.mod_lt _ (hlength ▸ List.length_pos_of_mem hturn))
    have hperm := (List.subperm_of_subset hresidues hsubset).perm_of_length_le (by simp [hlength])
    have hreplicas := hperm.map shard.replicaAt
    rwa [map_replicaAt_range] at hreplicas

end Shard

namespace Router

variable {router : Router} {shard : Shard} {shards : List Shard}

/-- The nodes that are chosen for commands that only read, one on each of some shards after the
other. -/
def choices : List Shard → Router → List (Shard × NodeAddress)
  | [], _ => []
  | shard :: rest, router =>
    let (node, router) := select shard true router
    (shard, node) :: choices rest router

def turns (shards : List Shard) (router : Router) : List (Shard × Nat) :=
  (shards.filter Shard.hasReplicas).zipIdx router.cursor.toNat

/-- The turns of one of some shards, counted over all of them. -/
def turnsOf (shard : Shard) (shards : List Shard) (router : Router) : List Nat :=
  ((turns shards router).filter (·.1 = shard)).map Prod.snd

/-- Of choices on a shard, any as many in a row as the shard has replicas are each of them once. -/
def InRotation (shard : Shard) (choices : List (Shard × NodeAddress)) : Prop :=
  ∀ block, block <:+: choices → (∀ choice ∈ block, choice.1 = shard) →
    block.length = shard.replicas.length → (block.map Prod.snd).Perm shard.replicas

theorem select_of_hasReplicas (hpolicy : router.policy = .preferReplica)
    (h : shard.hasReplicas = true) :
    select shard true router =
      (shard.replicaAt router.cursor.toNat, { router with cursor := router.cursor + 1 }) := by
  have hne : shard.replicas.isEmpty = false := by simpa [Shard.hasReplicas] using h
  simp [select, hne, hpolicy, rotate, Shard.replicaAt]

theorem select_of_not_hasReplicas (h : shard.hasReplicas = false) :
    select shard true router = (shard.primary, router) := by
  have hempty : shard.replicas.isEmpty = true := by simpa [Shard.hasReplicas] using h
  simp [select, hempty]

/-- Every choice on a shard with replicas takes the replica whose turn it is, and the next turn is
the next choice's, whatever its shard. -/
theorem choices_eq_turns (hpolicy : router.policy = .preferReplica)
    (hcursor : router.cursor.toNat + (shards.filter Shard.hasReplicas).length < UInt64.size) :
    (choices shards router).filter (·.1.hasReplicas) =
      (turns shards router).map fun turn => (turn.1, turn.1.replicaAt turn.2) := by
  induction shards generalizing router with
  | nil => rfl
  | cons shard rest ih =>
    cases h : shard.hasReplicas with
    | false =>
      have hrest := ih hpolicy (by simpa [h] using hcursor)
      simpa [choices, select_of_not_hasReplicas h, h, turns] using hrest
    | true =>
      have hlength : router.cursor.toNat + 1 + (rest.filter Shard.hasReplicas).length <
          UInt64.size := by
        rw [List.filter_cons_of_pos h, List.length_cons] at hcursor
        omega
      have hnext : (router.cursor + 1).toNat = router.cursor.toNat + 1 := by
        have hlt : router.cursor.toNat + 1 < 2 ^ 64 :=
          Nat.lt_of_le_of_lt (Nat.le_add_right _ _) hlength
        rw [UInt64.toNat_add]
        exact Nat.mod_eq_of_lt hlt
      have hrest := @ih { router with cursor := router.cursor + 1 } hpolicy
        (by simpa [hnext] using hlength)
      simpa [choices, select_of_hasReplicas hpolicy h, h, turns, hnext] using hrest

/-- Turns in a row are numbered in a row. -/
theorem exists_range'_of_infix {first : Nat} {block : List (Shard × Nat)}
    (hblock : block <:+: shards.zipIdx first) :
    ∃ turn, block.map Prod.snd = List.range' turn block.length := by
  obtain ⟨before, after, hsplit⟩ := hblock
  obtain ⟨_, _, -, hfront, -⟩ := List.zipIdx_eq_append_iff.1 hsplit.symm
  obtain ⟨_, _, -, -, rfl⟩ := List.zipIdx_eq_append_iff.1 hfront.symm
  exact ⟨_, by rw [List.zipIdx_map_snd, List.length_zipIdx]⟩

/-- The replicas of a shard that has as many turns in a row are taken in rotation. -/
theorem inRotation_of_turns (shard : Shard) (first : Nat) :
    InRotation shard ((shards.zipIdx first).map fun turn => (turn.1, turn.1.replicaAt turn.2)) := by
  intro block hblock hshard hlength
  obtain ⟨taken, htaken, rfl⟩ := List.infix_map_iff.1 hblock
  obtain ⟨turn, hturn⟩ := exists_range'_of_infix htaken
  rw [List.length_map] at hlength
  have hnodes : (taken.map fun turn => (turn.1, turn.1.replicaAt turn.2)).map Prod.snd =
      (taken.map Prod.snd).map shard.replicaAt := by
    simp only [List.map_map]
    refine List.map_congr_left fun turn hmem => ?_
    have hown : turn.1 = shard := hshard _ (List.mem_map_of_mem hmem)
    simp [hown]
  rw [hnodes, hturn, hlength, Shard.map_replicaAt_range']
  exact List.rotate_perm _ _

/-- The choices on one shard take the replicas whose turns they are. -/
theorem choices_on_eq_turnsOf (hpolicy : router.policy = .preferReplica)
    (hcursor : router.cursor.toNat + (shards.filter Shard.hasReplicas).length < UInt64.size)
    (hreplicas : shard.hasReplicas = true) :
    (choices shards router).filter (·.1 = shard) =
      (turnsOf shard shards router).map fun turn => (shard, shard.replicaAt turn) := by
  have hserved : (choices shards router).filter (·.1 = shard) =
      ((choices shards router).filter (·.1.hasReplicas)).filter (·.1 = shard) := by
    rw [List.filter_filter]
    refine List.filter_congr fun choice _ => ?_
    by_cases h : choice.1 = shard <;> simp [h, hreplicas]
  rw [hserved, choices_eq_turns hpolicy hcursor, List.filter_map, turnsOf, List.map_map]
  refine List.map_congr_left fun turn hmem => ?_
  have hown : turn.1 = shard := by simpa using (List.mem_filter.1 hmem).2
  simp [hown]

/-- A router that prefers replicas gives a shard the replicas whose turns its choices are, counted
over the choices on all shards with replicas. The shard's own choices are in rotation exactly if no
two of as many in a row as it has replicas are whole rounds apart. They are in rotation as long as
none on another shard comes in between. -/
theorem choices_inTurn (hpolicy : router.policy = .preferReplica)
    (hcursor : router.cursor.toNat + (shards.filter Shard.hasReplicas).length < UInt64.size) :
    (∀ shard, shard.hasReplicas → (choices shards router).filter (·.1 = shard) =
        (turnsOf shard shards router).map fun turn => (shard, shard.replicaAt turn)) ∧
      (∀ shard, shard.hasReplicas → shard.replicas.Nodup →
        (InRotation shard ((choices shards router).filter (·.1 = shard)) ↔
          ∀ block, block <:+: turnsOf shard shards router →
            block.length = shard.replicas.length →
              (block.map (· % shard.replicas.length)).Nodup)) ∧
      ∀ shard, InRotation shard ((choices shards router).filter (·.1.hasReplicas)) := by
  refine ⟨fun shard => choices_on_eq_turnsOf hpolicy hcursor, ?_, ?_⟩
  · intro shard hreplicas hnodup
    rw [choices_on_eq_turnsOf hpolicy hcursor hreplicas]
    have hnodes (block : List Nat) :
        (block.map fun turn => (shard, shard.replicaAt turn)).map Prod.snd =
          block.map shard.replicaAt := by simp
    constructor
    · intro hrotation block hblock hlength
      have hperm := hrotation _ (hblock.map _) (by simp) (by rw [List.length_map, hlength])
      rw [hnodes] at hperm
      exact (Shard.map_replicaAt_perm_iff hnodup hlength).1 hperm
    · intro hturns block hblock _ hlength
      obtain ⟨taken, htaken, rfl⟩ := List.infix_map_iff.1 hblock
      rw [List.length_map] at hlength
      rw [hnodes]
      exact (Shard.map_replicaAt_perm_iff hnodup hlength).2 (hturns taken htaken hlength)
  · intro shard
    rw [choices_eq_turns hpolicy hcursor]
    exact inRotation_of_turns shard _

/-- One of three turns is another shard's. -/
theorem choices_inTurn_shared :
    let a : Shard := ⟨0, 99, ⟨"a", 7⟩, [⟨"b", 7⟩, ⟨"c", 7⟩, ⟨"d", 7⟩]⟩
    let e : Shard := ⟨100, 199, ⟨"e", 7⟩, [⟨"f", 7⟩]⟩
    let router : Router := { policy := .preferReplica, cursor := 4 }
    router.cursor.toNat + ([a, e, a, a, a].filter Shard.hasReplicas).length < UInt64.size ∧
      turnsOf a [a, e, a, a, a] router = [4, 6, 7, 8] ∧
      ¬InRotation a ((choices [a, e, a, a, a] router).filter (·.1 = a)) ∧
      InRotation a ((choices [a, e, a, a, a] router).filter (·.1.hasReplicas)) := by
  intro a e router
  have hcursor : router.cursor.toNat + ([a, e, a, a, a].filter Shard.hasReplicas).length <
      UInt64.size := by decide
  have hturns : turnsOf a [a, e, a, a, a] router = [4, 6, 7, 8] := by decide
  obtain ⟨-, hexact, hrow⟩ := choices_inTurn rfl hcursor
  refine ⟨hcursor, hturns, fun hrotation => ?_, hrow a⟩
  have hblock : [4, 6, 7] <:+: turnsOf a [a, e, a, a, a] router := ⟨[], [8], hturns.symm⟩
  exact absurd ((hexact a rfl (by decide)).1 hrotation [4, 6, 7] hblock rfl) (by decide)

/-- A shard with two replicas is served by the same one twice if a choice on another shard comes in
between. -/
theorem choices_same_replica :
    let a : Shard := ⟨0, 8191, ⟨"a", 7000⟩, [⟨"b", 7000⟩, ⟨"c", 7000⟩]⟩
    let d : Shard := ⟨8192, 16383, ⟨"d", 7000⟩, [⟨"e", 7000⟩]⟩
    let router : Router := { policy := .preferReplica }
    (choices [a, d, a] router).map Prod.snd = [⟨"b", 7000⟩, ⟨"e", 7000⟩, ⟨"b", 7000⟩] ∧
      ¬InRotation a ((choices [a, d, a] router).filter (·.1 = a)) := by
  intro a d router
  refine ⟨by decide, fun hrotation => ?_⟩
  exact absurd (hrotation _ (List.infix_refl _) (by decide) (by decide)) (by decide)

end Router

end ClusterBatch
