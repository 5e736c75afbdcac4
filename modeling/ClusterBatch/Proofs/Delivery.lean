import ClusterBatch.Proofs.Attempts
import ClusterBatch.Proofs.Fallible
import ClusterBatch.Proofs.Packing

/-!
# Handing out replies

Taking a reply from its place leaves all other places as they are. As no place belongs to two
commands, each command gets from each of its nodes what came in at its place, whatever has been
handed out before.

Main statements: `Assignment.deliver_eq` and `Assignment.delivered_brought`, there always is a reply
at that place.
-/

namespace ClusterBatch

namespace Inbox

variable {inbox : Inbox} {placement other : Placement} {placements : List Placement}
  {nodes : List NodeAddress} {placed : List (Assignment × List Placement)}

theorem look_clear (h : other ≠ placement) :
    (inbox.clear placement).look nodes other = inbox.look nodes other := by
  obtain ⟨frame, index⟩ := placement
  obtain ⟨otherFrame, otherIndex⟩ := other
  simp only [look, clear, List.getD_eq_getElem?_getD, List.getElem?_modify]
  cases hreplies : inbox[otherFrame]? with
  | none => rfl
  | some replies =>
    by_cases hframe : frame = otherFrame
    · have hindex : index ≠ otherIndex := fun heq => h (by rw [hframe, heq])
      simp [hframe, List.getElem?_set_ne hindex]
    · simp [hframe]

def clearAll (placements : List Placement) (inbox : Inbox) : Inbox :=
  placements.foldl (fun inbox placement => inbox.clear placement) inbox

theorem clearAll_append (one another : List Placement) :
    inbox.clearAll (one ++ another) = (inbox.clearAll one).clearAll another :=
  List.foldl_append

theorem look_clearAll (h : other ∉ placements) :
    (inbox.clearAll placements).look nodes other = inbox.look nodes other := by
  induction placements generalizing inbox with
  | nil => rfl
  | cons placement rest ih =>
    obtain ⟨hfirst, hrest⟩ := not_or.1 (List.mem_cons.not.1 h)
    exact (ih hrest).trans (look_clear hfirst)

/-- Replies that are taken one after the other are those that lay there at the start. -/
theorem run_mapM_take (hnodup : placements.Nodup) :
    (placements.mapM (take nodes)).run inbox =
      (placements.map (inbox.look nodes ·), inbox.clearAll placements) := by
  induction placements generalizing inbox with
  | nil => rfl
  | cons placement rest ih =>
    obtain ⟨hfirst, hrest⟩ := List.nodup_cons.1 hnodup
    have hothers : rest.map ((inbox.clear placement).look nodes ·) =
        rest.map (inbox.look nodes ·) :=
      List.map_congr_left fun other hother => look_clear fun heq => hfirst (heq ▸ hother)
    have hlater : (rest.mapM (take nodes)).run (inbox.clear placement) = _ := ih hrest
    rw [hothers] at hlater
    exact run_mapM_cons rfl hlater

/-- What is handed out for places that all differ is what lay there at the start. -/
theorem run_deliver (hnodup : (placed.map Prod.snd).flatten.Nodup) :
    (deliver nodes placed).run inbox =
      (placed.map fun part => (part.1, part.2.map (inbox.look nodes ·)),
        inbox.clearAll (placed.map Prod.snd).flatten) := by
  induction placed generalizing inbox with
  | nil => rfl
  | cons first rest ih =>
    obtain ⟨assignment, placements⟩ := first
    rw [List.map_cons, List.flatten_cons, List.nodup_append] at hnodup
    obtain ⟨hplacements, hrest, hapart⟩ := hnodup
    have hothers : (rest.map fun part =>
        (part.1, part.2.map ((inbox.clearAll placements).look nodes ·))) =
          rest.map fun part => (part.1, part.2.map (inbox.look nodes ·)) := by
      refine List.map_congr_left fun part hpart => congrArg (part.1, ·) ?_
      refine List.map_congr_left fun other hother => look_clearAll fun hmem => ?_
      have hlater : other ∈ (rest.map Prod.snd).flatten :=
        List.mem_flatten.2 ⟨_, List.mem_map_of_mem hpart, hother⟩
      exact hapart other hmem other hlater rfl
    have hfirst : (do pure (assignment, ← placements.mapM (take nodes)) :
        StateM Inbox (Assignment × List (NodeAddress × Reply))).run inbox =
          ((assignment, placements.map (inbox.look nodes ·)), inbox.clearAll placements) := by
      rw [StateT.run_bind, run_mapM_take hplacements]
      rfl
    have hlater : (deliver nodes rest).run (inbox.clearAll placements) = _ := ih hrest
    rw [hothers, ← clearAll_append] at hlater
    exact run_mapM_cons hfirst hlater

theorem look_ofReplies (lists : List (List Reply)) (placement : Placement) :
    (ofReplies lists).look nodes placement =
      (nodes.getD placement.frame default,
        (lists.getD placement.frame []).getD placement.index .null) := by
  simp only [look, ofReplies, List.getD_eq_getElem?_getD, List.getElem?_map]
  cases lists[placement.frame]? with
  | none => rfl
  | some replies =>
    simp only [Option.map_some, Option.getD_some, List.getElem?_map]
    cases replies[placement.index]? <;> rfl

end Inbox

namespace Assignment

/-- The replies handed to commands: to each one, from each of its nodes, the reply at its place. -/
def delivered (assignments : List Assignment) (lists : List (List Reply)) :
    List (Assignment × List (NodeAddress × Reply)) :=
  assignments.mapIdx fun i assignment => (assignment, assignment.nodes.map fun node =>
    (node, (lists.getD ((allNodes assignments).idxOf node) []).getD (place assignments node i)
      .null))

variable {assignments : List Assignment} {assignment : Assignment} {sent : List Transmission}
  {lists : List (List Reply)} {i : Nat}

theorem map_node_parcels : (parcels assignments).map Parcel.node = allNodes assignments := by
  rw [parcels, List.map_map]
  exact List.map_id _

theorem delivered_getElem? (lists : List (List Reply))
    (hassignment : assignments[i]? = some assignment) :
    (delivered assignments lists)[i]? = some (assignment, assignment.nodes.map fun node =>
      (node, (lists.getD ((allNodes assignments).idxOf node) []).getD (place assignments node i)
        .null)) := by
  rw [delivered, List.getElem?_mapIdx, hassignment]
  rfl

theorem length_delivered : (delivered assignments lists).length = assignments.length :=
  List.length_mapIdx

theorem map_fst_delivered : (delivered assignments lists).map Prod.fst = assignments := by
  refine List.ext_getElem? fun i => ?_
  simp only [delivered, List.getElem?_map, List.getElem?_mapIdx, Option.map_map]
  exact Option.map_id'

theorem getElem?_of_delivered {part : Assignment × List (NodeAddress × Reply)}
    (h : (delivered assignments lists)[i]? = some part) : assignments[i]? = some part.1 := by
  have hfst : ((delivered assignments lists).map Prod.fst)[i]? = assignments[i]? :=
    congrArg (·[i]?) map_fst_delivered
  rw [← hfst, List.getElem?_map, h]
  rfl

/-- Replies that are taken from the places where commands have been packed are those at these
places. -/
theorem deliver_eq (hnodup : ∀ assignment ∈ assignments, assignment.nodes.Nodup)
    (lists : List (List Reply)) :
    ((Inbox.deliver ((parcels assignments).map Parcel.node)
      (assignments.zip (placements assignments))).run (.ofReplies lists)).1 =
        delivered assignments lists := by
  have hplaces : (assignments.zip (placements assignments)).map Prod.snd = placements assignments :=
    List.map_snd_zip (Nat.le_of_eq length_placements)
  have hapart : ((assignments.zip (placements assignments)).map Prod.snd).flatten.Nodup := by
    rw [hplaces]
    exact nodup_flatten_placements hnodup
  rw [Inbox.run_deliver hapart, map_node_parcels]
  refine List.ext_getElem? fun i => ?_
  cases hassignment : assignments[i]? with
  | none =>
    have hlength : assignments.length ≤ i := List.getElem?_eq_none_iff.1 hassignment
    rw [List.getElem?_eq_none (by simpa [length_placements] using hlength),
      List.getElem?_eq_none (by simpa [length_delivered] using hlength)]
  | some assignment =>
    have hzip : (assignments.zip (placements assignments))[i]? = some (assignment, _) :=
      List.getElem?_zip_eq_some.2 ⟨hassignment, placements_getElem? hassignment⟩
    rw [List.getElem?_map, hzip, delivered_getElem? lists hassignment, Option.map_some,
      List.map_map]
    congr 2
    refine List.map_congr_left fun node hnode => ?_
    have hmem := mem_allNodes_of_getElem? hassignment hnode
    simp [Inbox.look_ofReplies, List.getD_eq_getElem?_getD, List.getElem?_idxOf hmem]

/-- What is handed out has come in, unless it is the reply that stands for none. -/
theorem mem_delivered {part : Assignment × List (NodeAddress × Reply)}
    (hpart : part ∈ delivered assignments lists) :
    part.1 ∈ assignments ∧
      ∀ p ∈ part.2, p.2 = .null ∨ ∃ replies ∈ lists, p.2 ∈ replies := by
  obtain ⟨i, hi⟩ := List.getElem?_of_mem hpart
  rw [delivered, List.getElem?_mapIdx, Option.map_eq_some_iff] at hi
  obtain ⟨assignment, hassignment, rfl⟩ := hi
  refine ⟨List.mem_of_getElem? hassignment, fun p hp => ?_⟩
  obtain ⟨node, -, rfl⟩ := List.mem_map.1 hp
  dsimp only
  rw [List.getD_eq_getElem?_getD, List.getD_eq_getElem?_getD]
  cases hreplies : lists[(allNodes assignments).idxOf node]? with
  | none => exact .inl rfl
  | some replies =>
    rw [Option.getD_some]
    cases hreply : replies[place assignments node i]? with
    | none => exact .inl rfl
    | some reply => exact .inr ⟨replies, List.mem_of_getElem? hreplies, List.mem_of_getElem? hreply⟩

/-- A reply is the one at a command's place among those that a node brought. -/
def ReceivedAt (assignments : List Assignment) (sent : List Transmission) (i : Nat)
    (node : NodeAddress) (reply : Reply) : Prop :=
  ∃ t ∈ sent, ∃ replies, t.node = node ∧ t.result = .ok replies ∧
    replies[place assignments node i]? = some reply

theorem node_of_parcels (h : sent.map Transmission.parcel = parcels assignments) :
    sent.map Transmission.node = allNodes assignments := by
  have hnodes : sent.map Transmission.node = (sent.map Transmission.parcel).map Parcel.node := by
    simp [Transmission.node]
  rw [hnodes, h, map_node_parcels]

theorem parcel_of_mem_parcels {t : Transmission} (h : t.parcel ∈ parcels assignments) :
    t.parcel = parcel assignments t.node := by
  obtain ⟨node, -, hparcel⟩ := List.mem_map.1 h
  rw [Transmission.node, ← hparcel]
  rfl

/-- Each command is handed the reply at its place, from each of its nodes. There always is one. -/
theorem delivered_brought (hbrought : List.Forall₂ (BroughtFor sent) (parcels assignments) lists)
    (hassignment : assignments[i]? = some assignment) :
    ∃ placed, (delivered assignments lists)[i]? = some (assignment, placed) ∧
      placed.map Prod.fst = assignment.nodes ∧
      ∀ p ∈ placed, ReceivedAt assignments sent i p.1 p.2 := by
  refine ⟨_, delivered_getElem? lists hassignment, ?_, ?_⟩
  · rw [List.map_map]
    exact List.map_id _
  intro p hp
  obtain ⟨node, hnode, rfl⟩ := List.mem_map.1 hp
  have hparcel := parcels_getElem?_idxOf (mem_allNodes_of_getElem? hassignment hnode)
  obtain ⟨replies, hreplies, t, ht, htparcel, hresult⟩ :=
    Fallible.exists_getElem?_of_forall₂ hbrought hparcel
  have hlength := Transmission.length_of_result hresult
  rw [htparcel] at hlength
  have hplace : place assignments node i < replies.length :=
    hlength ▸ place_lt_length hassignment hnode
  refine ⟨t, ht, replies, congrArg Parcel.node htparcel, hresult, ?_⟩
  simp [List.getD_eq_getElem?_getD, hreplies, hplace]

/-- Each command is handed the reply at its place if every parcel was sent once. -/
theorem delivered_received (hparcels : sent.map Transmission.parcel = parcels assignments)
    (hresults : sent.map Transmission.result = lists.map .ok)
    (hassignment : assignments[i]? = some assignment) :
    ∃ placed, (delivered assignments lists)[i]? = some (assignment, placed) ∧
      placed.map Prod.fst = assignment.nodes ∧
      ∀ p ∈ placed, ReceivedAt assignments sent i p.1 p.2 :=
  delivered_brought (hparcels ▸ broughtFor_of_results hresults) hassignment

end Assignment

end ClusterBatch
