import ClusterBatch.Proofs.SlotsReplies

/-!
# Coverage

Whether a topology leaves a gap is told from the ends of its ranges alone: the first one starts at
the first slot, each other one right behind its predecessor, and the last one ends at the last slot.
Since the ranges are sorted and do not overlap, that is so if and only if each slot is served.

Main statement: `Topology.isFullyCovered_iff`.
-/

namespace ClusterBatch

namespace Topology

open Shard

variable {shards rest : List Shard} {shard : Shard} {next slot : Nat} {topology : Topology}

/-- Shards serve all slots from the given one on. -/
def ServesFrom (next : Nat) (shards : List Shard) : Prop :=
  ∀ slot, next ≤ slot → slot < Slot.count → ∃ shard ∈ shards, shard.contains slot

theorem servesFrom_nil_iff (hcount : next ≤ Slot.count) :
    ServesFrom next [] ↔ next = Slot.count := by
  constructor
  · intro h
    by_contra hne
    obtain ⟨shard, hshard, -⟩ := h next (Nat.le_refl _) (by omega)
    cases hshard
  · rintro rfl slot hle hlt
    omega

/-- What a shard leaves to those that follow it. -/
theorem servesFrom_cons_iff (hproper : shard.IsProper) :
    ServesFrom shard.start (shard :: rest) ↔ ServesFrom (shard.stop + 1) rest := by
  constructor
  · intro h slot hle hlt
    have hrange := hproper.start_le
    obtain ⟨other, hother, hcontains⟩ := h slot (by omega) hlt
    rcases List.mem_cons.1 hother with rfl | hother
    · have hstop := (contains_iff.1 hcontains).2
      omega
    · exact ⟨other, hother, hcontains⟩
  · intro h slot hle hlt
    by_cases hstop : slot ≤ shard.stop
    · exact ⟨shard, List.mem_cons_self, contains_iff.2 ⟨hle, hstop⟩⟩
    · obtain ⟨other, hother, hcontains⟩ := h slot (by omega) hlt
      exact ⟨other, List.mem_cons_of_mem _ hother, hcontains⟩

/-- The first slot lies in none of the later ranges, so that the first range starts there. -/
theorem start_eq_of_servesFrom (hproper : shard.IsProper) (hbefore : ∀ b ∈ rest, shard.Precedes b)
    (hle : next ≤ shard.start) (h : ServesFrom next (shard :: rest)) : shard.start = next := by
  have hrange := hproper.start_le
  have hlimit := hproper.stop_lt
  obtain ⟨other, hother, hcontains⟩ := h next (Nat.le_refl _) (by omega)
  have hstart := (contains_iff.1 hcontains).1
  rcases List.mem_cons.1 hother with rfl | hother
  · omega
  · have hlt : shard.stop < other.start := hbefore other hother
    omega

/-- One pass over the ends of the ranges tells whether all slots from a given one on are served. -/
theorem coverFrom_iff (hproper : ∀ shard ∈ shards, shard.IsProper)
    (hpairs : shards.Pairwise Precedes) (hnext : ∀ shard ∈ shards, next ≤ shard.start)
    (hcount : next ≤ Slot.count) : coverFrom next shards ↔ ServesFrom next shards := by
  induction shards generalizing next with
  | nil => rw [servesFrom_nil_iff hcount, coverFrom, decide_eq_true_iff]
  | cons shard rest ih =>
    obtain ⟨hshard, hrest⟩ := List.forall_mem_cons.1 hproper
    obtain ⟨hbefore, hafter⟩ := List.pairwise_cons.1 hpairs
    rw [coverFrom, Bool.and_eq_true, decide_eq_true_iff, ih hrest hafter hbefore hshard.stop_lt,
      ← servesFrom_cons_iff hshard]
    constructor
    · rintro ⟨rfl, h⟩
      exact h
    · intro h
      have hstart := start_eq_of_servesFrom hshard hbefore (hnext shard List.mem_cons_self) h
      exact ⟨hstart, hstart ▸ h⟩

theorem IsOrderly.precedes (h : topology.IsOrderly) : topology.shards.Pairwise Precedes :=
  (pairwise_precedes_iff h.proper).2 ⟨h.sorted.imp Nat.le_of_lt, h.apart⟩

theorem IsOrderly.isFullyCovered_iff_owner? (h : topology.IsOrderly) :
    topology.isFullyCovered ↔ ∀ slot < Slot.count, ∃ shard, topology.owner? slot = some shard := by
  rw [isFullyCovered, coverFrom_iff h.proper h.precedes (fun _ _ => Nat.zero_le _) (Nat.zero_le _)]
  simp only [ServesFrom, Nat.zero_le, true_implies, owner?_eq_some_iff h.proper h.precedes]

theorem lookup_ne_topologyGap_iff :
    (∀ gap, topology.lookup slot ≠ .error (.topologyGap gap)) ↔
      ∃ shard, topology.owner? slot = some shard := by
  unfold lookup
  cases topology.owner? slot <;> simp

/-- A topology that was read from a reply, whether or not it has been published since, is found to
be fully covered if and only if each slot has an owner, and so if and only if no slot is a gap. -/
theorem isFullyCovered_iff {reporter : Option String} {reply : Reply} {read : Topology}
    (hread : ofReply reporter reply = .ok read) (hshards : topology.shards = read.shards) :
    (topology.isFullyCovered ↔
        ∀ slot < 16384, ∃ shard, topology.owner? slot = some shard) ∧
      (topology.isFullyCovered ↔
        ∀ slot < 16384, ∀ gap, topology.lookup slot ≠ .error (.topologyGap gap)) := by
  have horderly : topology.IsOrderly := (isOrderly_of_ofReply hread).of_shards_eq hshards
  simp only [lookup_ne_topologyGap_iff]
  exact ⟨horderly.isFullyCovered_iff_owner?, horderly.isFullyCovered_iff_owner?⟩

/-- Two halves, the later one named first, as published second; and the same with one slot missing
between them. -/
theorem isFullyCovered_iff_halves :
    let node : Reply := .array [.bulk [97], .integer 1]
    let reply (stop : Int64) : Reply := .array [
      .array [.integer 8192, .integer 16383, node], .array [.integer 0, .integer stop, node]]
    let topology (stop : Nat) : Topology :=
      ⟨2, [⟨0, stop, ⟨"a", 1⟩, []⟩, ⟨8192, 16383, ⟨"a", 1⟩, []⟩]⟩
    ofReply none (reply 8191) = .ok { topology 8191 with epoch := 0 } ∧
      (∀ slot < 16384, ∃ shard, (topology 8191).owner? slot = some shard) ∧
      ofReply (some "b") (reply 8190) = .ok { topology 8190 with epoch := 0 } ∧
      ¬∀ slot < 16384, ∀ gap, (topology 8190).lookup slot ≠ .error (.topologyGap gap) := by
  intro node reply topology
  have hread : ofReply none (reply 8191) = .ok { topology 8191 with epoch := 0 } :=
    ofReply_of_mapM rfl (by decide +kernel) rfl (.swap _ _ _) (by simp [topology, Precedes])
  have hmissing : ofReply (some "b") (reply 8190) = .ok { topology 8190 with epoch := 0 } :=
    ofReply_of_mapM rfl (by decide +kernel) rfl (.swap _ _ _) (by simp [topology, Precedes])
  have hpublished (stop : Nat) :
      (topology stop).shards = { topology stop with epoch := 0 }.shards := rfl
  obtain ⟨howner, -⟩ := isFullyCovered_iff hread (hpublished 8191)
  obtain ⟨-, hgap⟩ := isFullyCovered_iff hmissing (hpublished 8190)
  exact ⟨hread, howner.1 (by decide), hmissing, fun h => absurd (hgap.2 h) (by decide)⟩

end Topology

end ClusterBatch
