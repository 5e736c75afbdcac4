import ClusterBatch.Topology.Lookup
import Mathlib.Data.List.Sort

/-!
# Shards in order

The shards of a topology are sorted, and only neighbours are compared to see that no two of them
share a slot. That is enough: where every shard ends before the next one starts, it ends before all
later ones start. The shard that serves a slot can then be told from where the shards start.

Main statements: `Topology.ofShards_eq_ok_iff` and `Topology.owner?_eq_some_iff`.
-/

namespace ClusterBatch

namespace Shard

structure IsProper (shard : Shard) : Prop where
  start_le : shard.start ≤ shard.stop
  stop_lt : shard.stop < Slot.count

/-- No slot is served by both of two shards. -/
def Apart (a b : Shard) : Prop := ∀ slot, ¬(a.contains slot ∧ b.contains slot)

def Precedes (a b : Shard) : Prop := a.stop < b.start

variable {a b c : Shard} {slot : Nat}

@[simp] theorem contains_iff : a.contains slot ↔ a.start ≤ slot ∧ slot ≤ a.stop := by
  simp [contains]

theorem Apart.symm (h : Apart a b) : Apart b a := fun slot hboth => h slot hboth.symm

theorem Precedes.apart (h : a.Precedes b) : Apart a b := by
  intro slot hboth
  have hlt : a.stop < b.start := h
  simp only [contains_iff] at hboth
  omega

theorem Precedes.trans (hb : b.IsProper) (hab : a.Precedes b) (hbc : b.Precedes c) :
    a.Precedes c :=
  Nat.lt_of_lt_of_le hab (Nat.le_trans hb.start_le (Nat.le_of_lt hbc))

/-- The start of the later one of two shards that overlap is served by both. -/
theorem Apart.precedes (hb : b.IsProper) (hle : a.start ≤ b.start) (h : Apart a b) :
    a.Precedes b := by
  have hstart := h b.start
  have hrange := hb.start_le
  simp only [contains_iff] at hstart
  unfold Precedes
  omega

end Shard

namespace Topology

open Shard

variable {shards : List Shard}

theorem firstOverlap?_eq_none_iff : firstOverlap? shards = none ↔ shards.IsChain Precedes := by
  fun_induction firstOverlap? shards with
  | case1 first second rest hle =>
    simp only [reduceCtorEq, List.isChain_cons_cons, false_iff, not_and]
    exact fun hlt => absurd hle (Nat.not_le_of_lt hlt)
  | case2 first second rest hlt ih =>
    rw [ih, List.isChain_cons_cons]
    exact (and_iff_right (Nat.lt_of_not_le hlt)).symm
  | case3 shards hshort =>
    match shards, hshort with
    | [], _ => simp
    | [shard], _ => simp
    | first :: second :: rest, hshort => exact absurd rfl (hshort first second rest)

/-- It is enough to compare neighbours. -/
theorem pairwise_of_isChain (hproper : ∀ shard ∈ shards, shard.IsProper)
    (h : shards.IsChain Precedes) : shards.Pairwise Precedes := by
  induction shards with
  | nil => exact .nil
  | cons a rest ih =>
    obtain ⟨-, hrest⟩ := List.forall_mem_cons.1 hproper
    cases rest with
    | nil => exact List.pairwise_singleton _ a
    | cons b rest =>
      obtain ⟨hab, hchain⟩ := List.isChain_cons_cons.1 h
      have hpairs := ih hrest hchain
      obtain ⟨hb, -⟩ := List.forall_mem_cons.1 hrest
      refine .cons ?_ hpairs
      intro c hc
      rcases List.mem_cons.1 hc with rfl | hc
      · exact hab
      · exact hab.trans hb ((List.pairwise_cons.1 hpairs).1 c hc)

theorem pairwise_precedes_iff (hproper : ∀ shard ∈ shards, shard.IsProper) :
    shards.Pairwise Precedes ↔
      shards.Pairwise (fun a b => a.start ≤ b.start) ∧ shards.Pairwise Apart := by
  constructor
  · intro h
    refine ⟨h.imp_of_mem ?_, h.imp Precedes.apart⟩
    intro a b ha _ hab
    exact Nat.le_trans (hproper a ha).start_le (Nat.le_of_lt hab)
  · rintro ⟨hsorted, hapart⟩
    refine (hsorted.and hapart).imp_of_mem ?_
    rintro a b - hb ⟨hle, hapart⟩
    exact hapart.precedes (hproper b hb) hle

/-- Shards that precede each other have one order. -/
theorem eq_of_perm {others : List Shard} (hproper : ∀ shard ∈ shards, shard.IsProper)
    (hperm : shards.Perm others) (h : shards.Pairwise Precedes)
    (hothers : others.Pairwise Precedes) : shards = others := by
  refine List.Perm.eq_of_pairwise ?_ h hothers hperm
  intro a b ha hb hab hba
  have hloop := (hab.trans (hproper b (hperm.mem_iff.2 hb)) hba : a.Precedes a)
  have hrange := (hproper a ha).start_le
  unfold Precedes at hloop
  omega

def inOrder (shards : List Shard) : List Shard := shards.mergeSort fun a b => a.start ≤ b.start

theorem inOrder_perm (shards : List Shard) : (inOrder shards).Perm shards :=
  List.mergeSort_perm _ _

theorem proper_inOrder (hproper : ∀ shard ∈ shards, shard.IsProper) :
    ∀ shard ∈ inOrder shards, shard.IsProper :=
  fun shard hshard => hproper shard ((inOrder_perm shards).mem_iff.1 hshard)

theorem pairwise_inOrder (hproper : ∀ shard ∈ shards, shard.IsProper)
    (h : shards.Pairwise Apart) : (inOrder shards).Pairwise Precedes := by
  have hsorted : (inOrder shards).Pairwise fun a b => decide (a.start ≤ b.start) := by
    refine List.pairwise_mergeSort ?_ ?_ shards
    · intro a b c hab hbc
      simp only [decide_eq_true_eq] at *
      omega
    · intro a b
      simp only [Bool.or_eq_true, decide_eq_true_eq]
      omega
  have hapart : (inOrder shards).Pairwise Apart := h.perm (inOrder_perm shards).symm Apart.symm
  exact (pairwise_precedes_iff (proper_inOrder hproper)).2 ⟨by simpa using hsorted, hapart⟩

theorem ofShards_eq (shards : List Shard) :
    ofShards shards = match firstOverlap? (inOrder shards) with
      | some (first, second) => .error (.overlap first second)
      | none => .ok { shards := inOrder shards } := rfl

theorem ofShards_of_precedes (h : (inOrder shards).Pairwise Precedes) :
    ofShards shards = .ok { shards := inOrder shards } := by
  rw [ofShards_eq, firstOverlap?_eq_none_iff.2 h.isChain]

theorem precedes_of_ofShards {topology : Topology} (hproper : ∀ shard ∈ shards, shard.IsProper)
    (h : ofShards shards = .ok topology) :
    topology = { shards := inOrder shards } ∧ topology.shards.Pairwise Precedes := by
  rw [ofShards_eq] at h
  split at h
  · cases h
  · next hnone =>
    cases h
    exact ⟨rfl, pairwise_of_isChain (proper_inOrder hproper) (firstOverlap?_eq_none_iff.1 hnone)⟩

/-- The topology that shards make up: all of them, in the one order in which they precede each
other. -/
theorem ofShards_eq_ok_iff {topology : Topology} (hproper : ∀ shard ∈ shards, shard.IsProper) :
    ofShards shards = .ok topology ↔
      topology.epoch = 0 ∧ topology.shards.Perm shards ∧ topology.shards.Pairwise Precedes := by
  constructor
  · intro h
    obtain ⟨rfl, hpairs⟩ := precedes_of_ofShards hproper h
    exact ⟨rfl, inOrder_perm shards, hpairs⟩
  · rintro ⟨hepoch, hperm, hpairs⟩
    have hapart : shards.Pairwise Apart := (hpairs.imp Precedes.apart).perm hperm Apart.symm
    have hsorted := pairwise_inOrder hproper hapart
    have heq : inOrder shards = topology.shards :=
      eq_of_perm (proper_inOrder hproper) ((inOrder_perm shards).trans hperm.symm) hsorted hpairs
    obtain ⟨epoch, sorted⟩ := topology
    subst hepoch heq
    exact ofShards_of_precedes hsorted

/-- Shards make up a topology if and only if no two of them share a slot. -/
theorem exists_ofShards_iff (hproper : ∀ shard ∈ shards, shard.IsProper) :
    (∃ topology, ofShards shards = .ok topology) ↔ shards.Pairwise Apart := by
  constructor
  · rintro ⟨topology, h⟩
    obtain ⟨-, hperm, hpairs⟩ := (ofShards_eq_ok_iff hproper).1 h
    exact (hpairs.imp Precedes.apart).perm hperm Apart.symm
  · intro h
    exact ⟨_, ofShards_of_precedes (pairwise_inOrder hproper h)⟩

/-- A slot is served by the shard whose range it lies in. -/
theorem owner?_eq_some_iff {topology : Topology} {slot : Nat} {shard : Shard}
    (hproper : ∀ shard ∈ topology.shards, shard.IsProper)
    (h : topology.shards.Pairwise Precedes) :
    topology.owner? slot = some shard ↔ shard ∈ topology.shards ∧ shard.contains slot := by
  rw [owner?, Option.filter_eq_some_iff]
  constructor
  · rintro ⟨hlast, hcontains⟩
    exact ⟨(List.takeWhile_sublist _).mem (List.mem_of_getLast? hlast), hcontains⟩
  · rintro ⟨hmem, hcontains⟩
    refine ⟨?_, hcontains⟩
    obtain ⟨hstart, hstop⟩ := contains_iff.1 hcontains
    -- All shards before the one whose range it is start before the slot, all others after it.
    obtain ⟨front, back, hsplit⟩ := List.append_of_mem hmem
    rw [hsplit] at hproper h ⊢
    obtain ⟨-, hrest, hfront⟩ := List.pairwise_append.1 h
    have hbefore : ∀ a ∈ front, decide (a.start ≤ slot) := by
      intro a ha
      have hrange := (hproper a (List.mem_append_left _ ha)).start_le
      have hlt : a.stop < shard.start := hfront a ha shard List.mem_cons_self
      simp only [decide_eq_true_eq]
      omega
    have hafter : back.takeWhile (·.start ≤ slot) = [] := by
      cases back with
      | nil => rfl
      | cons b back =>
        have hlt : shard.stop < b.start := (List.pairwise_cons.1 hrest).1 b List.mem_cons_self
        exact List.takeWhile_cons_of_neg (by simp only [decide_eq_true_eq]; omega)
    rw [List.takeWhile_append_of_pos hbefore, List.takeWhile_cons_of_pos (by simpa using hstart),
      hafter]
    exact List.getLast?_concat

end Topology

end ClusterBatch
