import ClusterBatch.Proofs.ShardOrder
import Mathlib.Data.List.Perm.Basic

/-!
# What replies say about slots

A reply describes shards if each of its entries describes one: its first and last slot, its primary
and its replicas, whatever else a node's entry holds. Exactly the replies that describe shards, no
two of which share a slot, give a topology. It consists of these shards, each slot is served by the
one whose range it lies in, and the order of the entries does not matter.

Main statements: `Topology.ofReply_eq_ok_iff` and `Topology.ofSlotsReply_agrees`.
-/

namespace ClusterBatch

namespace Reply

/-- A reply is a number: an integer, or text that is the numeral of one. -/
inductive IsNumber : Reply → Int → Prop
  | integer (value : Int64) : IsNumber (.integer value) value.toInt
  | bulk {text : Bytes} {value : Int64} (h : Numeral.int64? text.chars = some value) :
    IsNumber (.bulk text) value.toInt
  | simple {text : Bytes} {value : Int64} (h : Numeral.int64? text.chars = some value) :
    IsNumber (.simple text) value.toInt

inductive NamesHost (reporter : Option String) : String → String → Prop
  | given {text : String} (h : text ≠ "") : NamesHost reporter text text
  | omitted {host : String} (h : reporter = some host) : NamesHost reporter "" host

/-- A reply describes a node: by its host and its port, and anything behind them. -/
def DescribesNode (reporter : Option String) (reply : Reply) (node : NodeAddress) : Prop :=
  ∃ host port rest text, reply.items? = some (host :: port :: rest) ∧
    host.payload? = some (Utf8.encode text) ∧ NamesHost reporter text node.host ∧
    port.IsNumber node.port.toNat

/-- A reply describes a shard: by its first and its last slot, its primary and its replicas. -/
def DescribesShard (reporter : Option String) (reply : Reply) (shard : Shard) : Prop :=
  ∃ start stop primary replicas, reply.items? = some (start :: stop :: primary :: replicas) ∧
    start.IsNumber shard.start ∧ stop.IsNumber shard.stop ∧ shard.IsProper ∧
    primary.DescribesNode reporter shard.primary ∧
    List.Forall₂ (DescribesNode reporter) replicas shard.replicas

def DescribesShards (reporter : Option String) (reply : Reply) (shards : List Shard) : Prop :=
  ∃ entries, reply.items? = some entries ∧ List.Forall₂ (DescribesShard reporter) entries shards

end Reply

namespace Topology

open Reply

variable {α β : Type} {reporter : Option String} {reply : Reply}

theorem bind_eq_ok_iff {read : Except SlotsFault α} {next : α → Except SlotsFault β} {b : β} :
    (read >>= next) = .ok b ↔ ∃ a, read = .ok a ∧ next a = .ok b := by
  cases read <;> simp [Bind.bind, Except.bind]

theorem mapM_eq_ok_iff {read : α → Except SlotsFault β} {items : List α} {results : List β} :
    items.mapM read = .ok results ↔
      List.Forall₂ (fun item result => read item = .ok result) items results := by
  induction items generalizing results with
  | nil => cases results <;> simp [pure, Except.pure]
  | cons item items ih =>
    simp only [List.mapM_cons, bind_eq_ok_iff, ih]
    constructor
    · rintro ⟨first, hfirst, rest, hrest, hresults⟩
      cases hresults
      exact .cons hfirst hrest
    · intro h
      cases h with
      | cons hfirst hrest => exact ⟨_, hfirst, _, hrest, rfl⟩

theorem numberBelow?_eq_some_iff {bound n : Nat} :
    numberBelow? bound reply = some n ↔ reply.IsNumber n ∧ n < bound := by
  unfold numberBelow?
  rw [Option.bind_eq_some_iff]
  constructor
  · rintro ⟨value, hvalue, h⟩
    split_ifs at h with hrange
    cases h
    have hvalueEq : ((value.toInt.toNat : Nat) : Int) = value.toInt := Int.toNat_of_nonneg hrange.1
    refine ⟨?_, by omega⟩
    rw [hvalueEq]
    split at hvalue
    · cases hvalue
      exact .integer value
    · exact .bulk hvalue
    · exact .simple hvalue
    · cases hvalue
  · rintro ⟨hnumber, hlt⟩
    generalize hk : (n : Int) = k at hnumber
    cases hnumber with
    | integer value => exact ⟨value, rfl, by rw [if_pos (by omega)]; congr 1; omega⟩
    | bulk h => exact ⟨_, h, by rw [if_pos (by omega)]; congr 1; omega⟩
    | simple h => exact ⟨_, h, by rw [if_pos (by omega)]; congr 1; omega⟩

theorem readSlot_eq_ok_iff {slot : Nat} :
    readSlot reply = .ok slot ↔ reply.IsNumber slot ∧ slot < Slot.count := by
  rw [← numberBelow?_eq_some_iff, readSlot]
  cases numberBelow? Slot.count reply <;> simp

theorem readHost_eq_ok_iff {host : String} :
    readHost reporter reply = .ok host ↔
      ∃ text, reply.payload? = some (Utf8.encode text) ∧ NamesHost reporter text host := by
  unfold readHost
  constructor
  · intro h
    split at h
    · cases h
    · next text htext =>
      obtain ⟨payload, hpayload, hdecode⟩ := Option.bind_eq_some_iff.1 htext
      refine ⟨text, hpayload.trans (congrArg some (Utf8.eq_encode_of_decode? hdecode)), ?_⟩
      split_ifs at h with hempty
      · obtain rfl := String.isEmpty_iff.1 hempty
        cases reporter with
        | none => cases h
        | some fallback =>
          cases h
          exact .omitted rfl
      · cases h
        exact .given fun heq => hempty (String.isEmpty_iff.2 heq)
  · rintro ⟨text, hpayload, hnames⟩
    have hdecode : reply.payload?.bind Utf8.decode? = some text := by
      rw [hpayload, Option.bind_some, Utf8.decode?_encode]
    rw [hdecode]
    cases hnames with
    | given h => simp [h]
    | omitted h => simp [h]

theorem readNode_eq_ok_iff {node : NodeAddress} :
    readNode reporter reply = .ok node ↔ reply.DescribesNode reporter node := by
  unfold readNode
  constructor
  · intro h
    split at h
    · next host port rest hitems =>
      obtain ⟨name, hname, h⟩ := bind_eq_ok_iff.1 h
      obtain ⟨text, hpayload, hnames⟩ := readHost_eq_ok_iff.1 hname
      split at h
      · next number hport =>
        cases h
        obtain ⟨hnumber, hlt⟩ := numberBelow?_eq_some_iff.1 hport
        have heq : (UInt16.ofNat number).toNat = number := UInt16.toNat_ofNat_of_lt' hlt
        exact ⟨host, port, rest, text, hitems, hpayload, hnames, heq.symm ▸ hnumber⟩
      · cases h
    · cases h
  · rintro ⟨host, port, rest, text, hitems, hpayload, hnames, hnumber⟩
    have hport := numberBelow?_eq_some_iff.2 ⟨hnumber, node.port.toNat_lt_size⟩
    rw [hitems]
    refine bind_eq_ok_iff.2 ⟨node.host, readHost_eq_ok_iff.2 ⟨text, hpayload, hnames⟩, ?_⟩
    simp only [hport, UInt16.ofNat_toNat]

theorem readShard_eq_ok_iff {shard : Shard} :
    readShard reporter reply = .ok shard ↔ reply.DescribesShard reporter shard := by
  have hnodes {items : List Reply} {nodes : List NodeAddress} :
      items.mapM (readNode reporter) = .ok nodes ↔
        List.Forall₂ (DescribesNode reporter) items nodes := by
    simp only [mapM_eq_ok_iff, readNode_eq_ok_iff]
  unfold readShard
  constructor
  · intro h
    split at h
    · cases h
    · next first last primary replicas hitems =>
      obtain ⟨start, hstart, h⟩ := bind_eq_ok_iff.1 h
      obtain ⟨stop, hstop, h⟩ := bind_eq_ok_iff.1 h
      split_ifs at h with hreversed
      · cases h
      obtain ⟨node, hnode, h⟩ := bind_eq_ok_iff.1 h
      obtain ⟨others, hothers, h⟩ := bind_eq_ok_iff.1 h
      cases h
      obtain ⟨hfirst, -⟩ := readSlot_eq_ok_iff.1 hstart
      obtain ⟨hlast, hlt⟩ := readSlot_eq_ok_iff.1 hstop
      exact ⟨first, last, primary, replicas, hitems, hfirst, hlast,
        ⟨Nat.le_of_not_lt hreversed, hlt⟩, readNode_eq_ok_iff.1 hnode, hnodes.1 hothers⟩
    · cases h
  · rintro ⟨first, last, primary, replicas, hitems, hfirst, hlast, hproper, hnode, hothers⟩
    have hle := hproper.start_le
    have hlt := hproper.stop_lt
    rw [hitems]
    refine bind_eq_ok_iff.2 ⟨shard.start, readSlot_eq_ok_iff.2 ⟨hfirst, by omega⟩, ?_⟩
    refine bind_eq_ok_iff.2 ⟨shard.stop, readSlot_eq_ok_iff.2 ⟨hlast, hlt⟩, ?_⟩
    rw [if_neg (Nat.not_lt.2 hle)]
    refine bind_eq_ok_iff.2 ⟨shard.primary, readNode_eq_ok_iff.2 hnode, ?_⟩
    exact bind_eq_ok_iff.2 ⟨shard.replicas, hnodes.2 hothers, rfl⟩

/-- Whatever was read from several replies was read from one of them. -/
theorem exists_mem_of_forall₂ {r : α → β → Prop} {items : List α} {results : List β} {result : β}
    (h : List.Forall₂ r items results) (hresult : result ∈ results) :
    ∃ item ∈ items, r item result := by
  induction h with
  | nil => cases hresult
  | cons hfirst _ ih =>
    rcases List.mem_cons.1 hresult with rfl | hresult
    · exact ⟨_, List.mem_cons_self, hfirst⟩
    · obtain ⟨item, hitem, hrest⟩ := ih hresult
      exact ⟨item, List.mem_cons_of_mem _ hitem, hrest⟩

theorem proper_of_describesShards {shards : List Shard}
    (h : reply.DescribesShards reporter shards) : ∀ shard ∈ shards, shard.IsProper := by
  obtain ⟨entries, -, hshards⟩ := h
  intro shard hshard
  obtain ⟨entry, -, hentry⟩ := exists_mem_of_forall₂ hshards hshard
  obtain ⟨_, _, _, _, -, -, -, hproper, -⟩ := hentry
  exact hproper

theorem ofReply_eq_ofShards_iff {topology : Topology} :
    ofReply reporter reply = .ok topology ↔
      ∃ shards, reply.DescribesShards reporter shards ∧ ofShards shards = .ok topology := by
  unfold ofReply Reply.DescribesShards
  cases reply.items? with
  | none => simp
  | some entries => simp [bind_eq_ok_iff, mapM_eq_ok_iff, readShard_eq_ok_iff]

/-- A reply gives a topology of the shards that it describes, in order. -/
theorem ofReply_eq_ok_iff {topology : Topology} :
    ofReply reporter reply = .ok topology ↔
      ∃ shards, reply.DescribesShards reporter shards ∧ topology.epoch = 0 ∧
        topology.shards.Perm shards ∧ topology.shards.Pairwise Shard.Precedes := by
  rw [ofReply_eq_ofShards_iff]
  refine exists_congr fun shards => and_congr_right fun h => ?_
  exact ofShards_eq_ok_iff (proper_of_describesShards h)

theorem ofReply_of_mapM {topology : Topology} {entries : List Reply} {shards : List Shard}
    (hitems : reply.items? = some entries) (hread : entries.mapM (readShard reporter) = .ok shards)
    (hepoch : topology.epoch = 0) (hperm : topology.shards.Perm shards)
    (hpairs : topology.shards.Pairwise Shard.Precedes) : ofReply reporter reply = .ok topology := by
  have hshards := (mapM_eq_ok_iff.1 hread).imp fun _ _ => readShard_eq_ok_iff.1
  exact ofReply_eq_ok_iff.2 ⟨shards, ⟨entries, hitems, hshards⟩, hepoch, hperm, hpairs⟩

theorem exists_ofReply_iff :
    (∃ topology, ofReply reporter reply = .ok topology) ↔
      ∃ shards, reply.DescribesShards reporter shards ∧ shards.Pairwise Shard.Apart := by
  simp only [ofReply_eq_ofShards_iff]
  rw [exists_comm]
  refine exists_congr fun shards => ?_
  rw [exists_and_left]
  exact and_congr_right fun h => exists_ofShards_iff (proper_of_describesShards h)

/-- Shards are sorted, none of them is empty and no two of them share a slot. -/
structure IsOrderly (topology : Topology) : Prop where
  proper : ∀ shard ∈ topology.shards, shard.IsProper
  sorted : topology.shards.Pairwise fun a b => a.start < b.start
  apart : topology.shards.Pairwise Shard.Apart

theorem IsOrderly.of_shards_eq {topology other : Topology} (h : other.IsOrderly)
    (hshards : topology.shards = other.shards) : topology.IsOrderly :=
  ⟨hshards ▸ h.proper, hshards ▸ h.sorted, hshards ▸ h.apart⟩

theorem isOrderly_of_precedes {topology : Topology}
    (hproper : ∀ shard ∈ topology.shards, shard.IsProper)
    (h : topology.shards.Pairwise Shard.Precedes) : topology.IsOrderly where
  proper := hproper
  sorted := by
    refine h.imp_of_mem ?_
    intro a b ha _ hab
    exact Nat.lt_of_le_of_lt (hproper a ha).start_le hab
  apart := h.imp Shard.Precedes.apart

theorem isOrderly_of_ofReply {topology : Topology} (h : ofReply reporter reply = .ok topology) :
    topology.IsOrderly := by
  obtain ⟨shards, hshards, -, hperm, hpairs⟩ := ofReply_eq_ok_iff.1 h
  have hproper := proper_of_describesShards hshards
  exact isOrderly_of_precedes (fun shard hshard => hproper shard (hperm.mem_iff.1 hshard)) hpairs

/-- Entries in another order describe the same shards in another order. -/
theorem describesShards_perm {other : Reply} {shards : List Shard} {entries others : List Reply}
    (hitems : reply.items? = some entries) (hothers : other.items? = some others)
    (hperm : others.Perm entries) (h : reply.DescribesShards reporter shards) :
    ∃ permuted, permuted.Perm shards ∧ other.DescribesShards reporter permuted := by
  obtain ⟨_, hentries, hshards⟩ := h
  cases hitems.symm.trans hentries
  obtain ⟨permuted, hpermuted, hsame⟩ := List.perm_comp_forall₂ hperm hshards
  exact ⟨permuted, hsame, others, hothers, hpermuted⟩

theorem ofReply_perm {other : Reply} {topology : Topology} {entries others : List Reply}
    (hitems : reply.items? = some entries) (hothers : other.items? = some others)
    (hperm : others.Perm entries) (h : ofReply reporter reply = .ok topology) :
    ofReply reporter other = .ok topology := by
  obtain ⟨shards, hshards, hepoch, hsame, hpairs⟩ := ofReply_eq_ok_iff.1 h
  obtain ⟨permuted, hpermuted, hdescribes⟩ := describesShards_perm hitems hothers hperm hshards
  exact ofReply_eq_ok_iff.2 ⟨permuted, hdescribes, hepoch, hsame.trans hpermuted.symm, hpairs⟩

theorem ofSlotsReply_eq_ok_iff {topology : Topology} :
    ofSlotsReply reply = .ok topology ↔ ofReply none reply = .ok topology := by
  unfold ofSlotsReply
  cases ofReply none reply <;> simp [Except.mapError]

/-- A topology consists of shards, and each slot is served by the one whose range it lies in. -/
structure Holds (topology : Topology) (shards : List Shard) : Prop where
  perm : topology.shards.Perm shards
  orderly : topology.IsOrderly
  owner_iff : ∀ slot shard,
    topology.owner? slot = some shard ↔ shard ∈ shards ∧ shard.contains slot
  lookup_iff : ∀ slot shard,
    topology.lookup slot = .ok shard ↔ shard ∈ shards ∧ shard.contains slot
  gap : ∀ slot, (∀ shard ∈ shards, ¬shard.contains slot) →
    topology.owner? slot = none ∧ topology.lookup slot = .error (.topologyGap slot)

theorem holds_of_precedes {topology : Topology} {shards : List Shard}
    (hproper : ∀ shard ∈ shards, shard.IsProper) (hperm : topology.shards.Perm shards)
    (h : topology.shards.Pairwise Shard.Precedes) : topology.Holds shards := by
  have hown : ∀ shard ∈ topology.shards, shard.IsProper :=
    fun shard hshard => hproper shard (hperm.mem_iff.1 hshard)
  have howner (slot : Nat) (shard : Shard) :
      topology.owner? slot = some shard ↔ shard ∈ shards ∧ shard.contains slot := by
    rw [owner?_eq_some_iff hown h, hperm.mem_iff]
  refine ⟨hperm, isOrderly_of_precedes hown h, howner, ?_, ?_⟩
  · intro slot shard
    rw [← howner, lookup]
    cases topology.owner? slot <;> simp
  · intro slot hgap
    have hnone : topology.owner? slot = none := by
      rw [Option.eq_none_iff_forall_ne_some]
      intro shard hshard
      obtain ⟨hmem, hcontains⟩ := (howner slot shard).1 hshard
      exact hgap shard hmem hcontains
    exact ⟨hnone, by rw [lookup, hnone]⟩

/-- Exactly the replies that describe shards, no two of which share a slot, give a topology; with
all others discovery fails. The topology consists of these shards, and entries in any other order
give the same one. -/
theorem ofSlotsReply_agrees (reply : Reply) :
    ((∃ topology, ofSlotsReply reply = .ok topology) ↔
        ∃ shards, reply.DescribesShards none shards ∧ shards.Pairwise Shard.Apart) ∧
      (∀ e, ofSlotsReply reply = .error e → ∃ cause, e = .discovery cause) ∧
      ∀ topology, ofSlotsReply reply = .ok topology →
        (∃ shards, reply.DescribesShards none shards ∧ topology.Holds shards) ∧
          ∀ other entries others, reply.items? = some entries → other.items? = some others →
            others.Perm entries → ofSlotsReply other = .ok topology := by
  refine ⟨?_, ?_, ?_⟩
  · simp only [ofSlotsReply_eq_ok_iff]
    exact exists_ofReply_iff
  · intro e he
    unfold ofSlotsReply at he
    cases h : ofReply none reply with
    | ok topology => rw [h] at he; cases he
    | error fault => rw [h] at he; cases he; exact ⟨_, rfl⟩
  · intro topology htopology
    rw [ofSlotsReply_eq_ok_iff] at htopology
    obtain ⟨shards, hshards, -, hperm, hpairs⟩ := ofReply_eq_ok_iff.1 htopology
    refine ⟨⟨shards, hshards, ?_⟩, ?_⟩
    · exact holds_of_precedes (proper_of_describesShards hshards) hperm hpairs
    · intro other entries others hitems hothers hsame
      exact ofSlotsReply_eq_ok_iff.2 (ofReply_perm hitems hothers hsame htopology)

/-- Two ranges that touch, the later one named first and with a replica, a host of its own for each
node and numbers that are text. -/
theorem ofSlotsReply_agrees_touching :
    let node (host : Bytes) : Reply := .array [.bulk host, .bulk [55]]
    let reply := .set [.array [.integer 6, .bulk [43, 57], node [98], node [99]],
      .push [.simple [53], .integer 5, node [97]]]
    let topology : Topology :=
      { shards := [⟨5, 5, ⟨"a", 7⟩, []⟩, ⟨6, 9, ⟨"b", 7⟩, [⟨"c", 7⟩]⟩] }
    ofSlotsReply reply = .ok topology ∧
      ∃ shards, reply.DescribesShards none shards ∧ topology.Holds shards := by
  intro node reply topology
  have hshards : reply.DescribesShards none
      [⟨6, 9, ⟨"b", 7⟩, [⟨"c", 7⟩]⟩, ⟨5, 5, ⟨"a", 7⟩, []⟩] :=
    ⟨_, rfl, .cons (readShard_eq_ok_iff.1 (by decide +kernel))
      (.cons (readShard_eq_ok_iff.1 (by decide +kernel)) .nil)⟩
  have h : ofSlotsReply reply = .ok topology := ofSlotsReply_eq_ok_iff.2
    (ofReply_eq_ok_iff.2 ⟨_, hshards, rfl, by decide, by simp [topology, Shard.Precedes]⟩)
  exact ⟨h, ((ofSlotsReply_agrees reply).2.2 topology h).1⟩

end Topology

end ClusterBatch
