import ClusterBatch.Assignment
import Mathlib.Data.List.Nodup

/-!
# Packing frames

The frames that commands are put into one at a time are, in the end, the same as if each node were
asked which commands go to it: there is one frame for each node, in the order in which the nodes are
first used, with the encoded commands for the node in their order. The place that a command gets in
the frame of a node is how many commands before it went to the same node, so that no place belongs
to two commands and every place to one.

Main statement: `Assignment.packAll_eq`.
-/

namespace ClusterBatch

/-- One step after the other, each from the state that the one before it has left. -/
theorem run_mapM_cons {ς α β : Type} {step : α → StateM ς β} {first : α} {rest : List α}
    {before middle after : ς} {b : β} {others : List β}
    (hfirst : (step first).run before = (b, middle))
    (hrest : (rest.mapM step).run middle = (others, after)) :
    ((first :: rest).mapM step).run before = (b :: others, after) := by
  rw [List.mapM_cons, StateT.run_bind, hfirst]
  change (b :: ((rest.mapM step).run middle).1, ((rest.mapM step).run middle).2) = _
  rw [hrest]

namespace Assignment

/-- The nodes of several assignments, each once, in the order of their first use. -/
def allNodes (assignments : List Assignment) : List NodeAddress :=
  distinct (assignments.flatMap Assignment.nodes)

/-- The assignments that a node takes part in. -/
def atNode (node : NodeAddress) (assignments : List Assignment) : List Assignment :=
  assignments.filter (node ∈ ·.nodes)

def parcel (assignments : List Assignment) (node : NodeAddress) : Parcel :=
  ⟨node, (atNode node assignments).flatMap (·.command.encode), (atNode node assignments).length⟩

def parcels (assignments : List Assignment) : List Parcel :=
  (allNodes assignments).map (parcel assignments)

/-- The place of a command among those that go to a node: how many before it do so. -/
def place (assignments : List Assignment) (node : NodeAddress) (i : Nat) : Nat :=
  (atNode node (assignments.take i)).length

def placements (assignments : List Assignment) : List (List Placement) :=
  assignments.mapIdx fun i assignment => assignment.nodes.map fun node =>
    ⟨(allNodes assignments).idxOf node, place assignments node i⟩

variable {assignments done rest : List Assignment} {assignment : Assignment}
  {node other : NodeAddress} {seen nodes : List NodeAddress} {i j k : Nat}

theorem mem_allNodes :
    node ∈ allNodes assignments ↔ ∃ assignment ∈ assignments, node ∈ assignment.nodes := by
  rw [allNodes, mem_distinct, List.mem_flatMap]

theorem mem_allNodes_of_getElem? (hassignment : assignments[i]? = some assignment)
    (hnode : node ∈ assignment.nodes) : node ∈ allNodes assignments :=
  mem_allNodes.2 ⟨assignment, List.mem_of_getElem? hassignment, hnode⟩

/-! ## Places -/

theorem place_length :
    place assignments node assignments.length = (atNode node assignments).length := by
  rw [place, List.take_length]

theorem place_append_length :
    place (done ++ rest) node done.length = (atNode node done).length := by
  rw [place, List.take_left]

theorem place_cons_succ :
    place (assignment :: assignments) node (i + 1) =
      place assignments node i + if node ∈ assignment.nodes then 1 else 0 := by
  unfold place atNode
  by_cases h : node ∈ assignment.nodes <;> simp [h]

theorem place_mono (h : i ≤ j) : place assignments node i ≤ place assignments node j :=
  ((List.take_prefix_take_left h).sublist.filter _).length_le

theorem place_lt (h : i < j) (hassignment : assignments[i]? = some assignment)
    (hnode : node ∈ assignment.nodes) : place assignments node i < place assignments node j := by
  have hsucc : place assignments node (i + 1) = place assignments node i + 1 := by
    simp [place, atNode, List.take_add_one, hassignment, hnode]
  have hle : place assignments node (i + 1) ≤ place assignments node j := place_mono h
  omega

theorem place_lt_length (hassignment : assignments[i]? = some assignment)
    (hnode : node ∈ assignment.nodes) :
    place assignments node i < (atNode node assignments).length := by
  obtain ⟨hi, -⟩ := List.getElem?_eq_some_iff.1 hassignment
  rw [← place_length]
  exact place_lt hi hassignment hnode

/-- Every place in the frame of a node belongs to some command. -/
theorem exists_place_eq (h : k < (atNode node assignments).length) :
    ∃ i assignment, assignments[i]? = some assignment ∧ node ∈ assignment.nodes ∧
      place assignments node i = k := by
  induction assignments generalizing k with
  | nil => exact absurd h (Nat.not_lt_zero k)
  | cons first rest ih =>
    by_cases hfirst : node ∈ first.nodes
    · cases k with
      | zero => exact ⟨0, first, rfl, hfirst, rfl⟩
      | succ k =>
        have hk : k < (atNode node rest).length := by simpa [atNode, hfirst] using h
        obtain ⟨i, assignment, hassignment, hnode, hplace⟩ := ih hk
        exact ⟨i + 1, assignment, hassignment, hnode, by simp [place_cons_succ, hplace, hfirst]⟩
    · have hk : k < (atNode node rest).length := by simpa [atNode, hfirst] using h
      obtain ⟨i, assignment, hassignment, hnode, hplace⟩ := ih hk
      exact ⟨i + 1, assignment, hassignment, hnode, by simp [place_cons_succ, hplace, hfirst]⟩

/-! ## One step -/

theorem idxOf_distinct_concat (nodes : List NodeAddress) (node : NodeAddress) :
    (distinct (nodes ++ [node])).idxOf node = (distinct nodes).idxOf node := by
  rw [distinct_append]
  by_cases h : node ∈ nodes
  · exact List.idxOf_append_of_mem (mem_distinct.2 h)
  · have hlength : (distinct nodes).idxOf node = (distinct nodes).length :=
      List.idxOf_eq_length (by simpa using h)
    rw [List.idxOf_append_of_notMem (by simpa using h), hlength]
    simp [distinct, h]

theorem idxOf_distinct_append {nodes : List NodeAddress} (h : node ∈ nodes)
    (more : List NodeAddress) :
    (distinct (nodes ++ more)).idxOf node = (distinct nodes).idxOf node := by
  rw [distinct_append]
  exact List.idxOf_append_of_mem (mem_distinct.2 h)

/-- A command is put into the parcel of its node where there is one, and into a new one else. -/
theorem put_map {command : Command} {parcelOf : NodeAddress → Parcel}
    (hnode : ∀ other, (parcelOf other).node = other) {nodes : List NodeAddress}
    (hnodup : nodes.Nodup) (hnew : node ∉ nodes → parcelOf node = ⟨node, [], 0⟩) :
    Parcel.put command node (nodes.map parcelOf) =
      (⟨nodes.idxOf node, (parcelOf node).count⟩,
        (if node ∈ nodes then nodes else nodes ++ [node]).map fun other =>
          if other = node then (parcelOf other).extend command else parcelOf other) := by
  induction nodes with
  | nil => simp [Parcel.put, hnew]
  | cons first rest ih =>
    obtain ⟨hfirst, hrest⟩ := List.nodup_cons.1 hnodup
    by_cases heq : first = node
    · subst heq
      have hothers : ∀ other ∈ rest, other ≠ first := fun other hother hsame =>
        hfirst (hsame ▸ hother)
      simp +contextual [Parcel.put, hnode, hothers]
    · have hnew' : node ∉ rest → parcelOf node = ⟨node, [], 0⟩ := fun hnot =>
        hnew (by simp [Ne.symm heq, hnot])
      rw [List.map_cons, Parcel.put, if_neg (by rwa [hnode]), ih hrest hnew']
      by_cases hmem : node ∈ rest <;> simp [hmem, heq, Ne.symm heq, List.idxOf_cons_ne]

/-- The frame for a node has grown if the node was added to those of the last command. -/
theorem parcel_concat (h : node ∉ seen) (other : NodeAddress) :
    parcel (done ++ [{ assignment with nodes := seen ++ [node] }]) other =
      if other = node then
        (parcel (done ++ [{ assignment with nodes := seen }]) other).extend assignment.command
      else parcel (done ++ [{ assignment with nodes := seen }]) other := by
  by_cases heq : other = node
  · subst heq
    simp [parcel, atNode, Parcel.extend, List.filter_append, h]
  · by_cases hseen : other ∈ seen <;> simp [parcel, atNode, List.filter_append, heq, hseen]

theorem allNodes_concat :
    allNodes (done ++ [{ assignment with nodes := seen }]) =
      distinct (done.flatMap Assignment.nodes ++ seen) := by
  simp [allNodes]

/-- The step of the inner loop: a command is put into the frame of its next node. -/
theorem put_parcels (h : node ∉ seen) :
    Parcel.put assignment.command node (parcels (done ++ [{ assignment with nodes := seen }])) =
      (⟨(allNodes (done ++ [{ assignment with nodes := seen ++ [node] }])).idxOf node,
        (atNode node done).length⟩,
        parcels (done ++ [{ assignment with nodes := seen ++ [node] }])) := by
  let nodes := done.flatMap Assignment.nodes ++ seen
  have hnew : node ∉ distinct nodes →
      parcel (done ++ [{ assignment with nodes := seen }]) node = ⟨node, [], 0⟩ := by
    intro hnot
    have hunused : ∀ earlier ∈ done, node ∉ earlier.nodes := by
      simpa [nodes, not_or, h] using hnot
    have hnone : atNode node (done ++ [{ assignment with nodes := seen }]) = [] := by
      simpa [atNode, List.filter_append, h] using hunused
    rw [parcel, hnone]
    rfl
  have hnodes : distinct (nodes ++ [node]) =
      if node ∈ distinct nodes then distinct nodes else distinct nodes ++ [node] := by
    rw [distinct_append]
    by_cases hmem : node ∈ nodes <;> simp [distinct, hmem]
  have hcount : (parcel (done ++ [{ assignment with nodes := seen }]) node).count =
      (atNode node done).length := by
    simp [parcel, atNode, List.filter_append, h]
  rw [parcels, parcels, allNodes_concat, allNodes_concat, ← List.append_assoc,
    put_map (fun _ => rfl) (nodup_distinct nodes) hnew, hcount, ← hnodes, idxOf_distinct_concat]
  congr 2
  funext other
  exact (parcel_concat h other).symm

/-! ## The two loops -/

/-- The inner loop goes over the nodes of a command. Those that are done are the nodes of the last
assignment in the frames so far. -/
theorem run_pack_from (hnodup : (seen ++ nodes).Nodup) :
    (pack { assignment with nodes := nodes }).run
        (parcels (done ++ [{ assignment with nodes := seen }])) =
      (nodes.map fun node =>
        ⟨(allNodes (done ++ [{ assignment with nodes := seen ++ nodes }])).idxOf node,
          (atNode node done).length⟩,
        parcels (done ++ [{ assignment with nodes := seen ++ nodes }])) := by
  induction nodes generalizing seen with
  | nil =>
    rw [List.append_nil]
    rfl
  | cons node rest ih =>
    have hnode : node ∉ seen := fun hmem =>
      (List.nodup_append.1 hnodup).2.2 node hmem node List.mem_cons_self rfl
    have hrest : (seen ++ [node] ++ rest).Nodup := by simpa using hnodup
    have hindex : (allNodes (done ++ [{ assignment with nodes := seen ++ [node] }])).idxOf node =
        (allNodes (done ++ [{ assignment with nodes := seen ++ node :: rest }])).idxOf node := by
      have hmem : node ∈ done.flatMap Assignment.nodes ++ (seen ++ [node]) := by simp
      rw [allNodes_concat, allNodes_concat, ← idxOf_distinct_append hmem rest]
      simp
    have hlater := ih hrest
    rw [List.append_assoc] at hlater
    rw [List.map_cons, ← hindex]
    exact run_mapM_cons (put_parcels hnode) hlater

/-- The step of the outer loop: a command is put into the frames for its nodes. -/
theorem run_pack (hnodup : assignment.nodes.Nodup) :
    assignment.pack.run (parcels done) =
      (assignment.nodes.map fun node =>
        ⟨(allNodes (done ++ [assignment])).idxOf node, (atNode node done).length⟩,
        parcels (done ++ [assignment])) := by
  have hstart : parcels (done ++ [{ assignment with nodes := [] }]) = parcels done := by
    simp [parcels, allNodes, parcel, atNode, List.filter_append]
  rw [← hstart]
  exact run_pack_from hnodup

theorem length_placements : (placements assignments).length = assignments.length :=
  List.length_mapIdx

theorem placements_getElem?_iff {places : List Placement} :
    (placements assignments)[i]? = some places ↔ ∃ assignment, assignments[i]? = some assignment ∧
      places = assignment.nodes.map fun node =>
        ⟨(allNodes assignments).idxOf node, place assignments node i⟩ := by
  rw [placements, List.getElem?_mapIdx, Option.map_eq_some_iff]
  exact exists_congr fun assignment => and_congr_right fun _ => eq_comm

theorem placements_getElem? (hassignment : assignments[i]? = some assignment) :
    (placements assignments)[i]? = some (assignment.nodes.map fun node =>
      ⟨(allNodes assignments).idxOf node, place assignments node i⟩) :=
  placements_getElem?_iff.2 ⟨assignment, hassignment, rfl⟩

/-- The places of a command do not depend on the commands after it. -/
theorem placements_append_cons :
    (placements (done ++ assignment :: rest)).drop done.length =
      (assignment.nodes.map fun node =>
        ⟨(allNodes (done ++ [assignment])).idxOf node, (atNode node done).length⟩) ::
        (placements (done ++ assignment :: rest)).drop (done.length + 1) := by
  have hassignment : (done ++ assignment :: rest)[done.length]? = some assignment := by simp
  rw [List.drop_eq_getElem?_toList_append, placements_getElem? hassignment]
  refine congrArg (· :: _) (List.map_congr_left fun node hnode => ?_)
  have hmem : node ∈ (done ++ [assignment]).flatMap Assignment.nodes := by simp [hnode]
  have hindex := idxOf_distinct_append hmem (rest.flatMap Assignment.nodes)
  rw [← List.flatMap_append, List.append_assoc] at hindex
  rw [place_append_length]
  exact congrArg (Placement.mk · _) hindex

/-- The outer loop goes over the commands. The frames so far are those of the commands that are
done. -/
theorem run_packAll_from (hnodup : ∀ assignment ∈ rest, assignment.nodes.Nodup) :
    (rest.mapM pack).run (parcels done) =
      ((placements (done ++ rest)).drop done.length, parcels (done ++ rest)) := by
  induction rest generalizing done with
  | nil =>
    rw [List.append_nil, ← length_placements, List.drop_length]
    rfl
  | cons assignment rest ih =>
    obtain ⟨hfirst, hrest⟩ := List.forall_mem_cons.1 hnodup
    have hlater : (rest.mapM pack).run (parcels (done ++ [assignment])) = _ := ih hrest
    rw [List.append_assoc, List.length_append] at hlater
    rw [placements_append_cons]
    exact run_mapM_cons (run_pack hfirst) hlater

/-- The frames that commands are put into one at a time, and the places that they get there. -/
theorem packAll_eq (hnodup : ∀ assignment ∈ assignments, assignment.nodes.Nodup) :
    packAll assignments = (placements assignments, parcels assignments) :=
  @run_packAll_from [] assignments hnodup

/-! ## All places -/

theorem mem_flatten_placements {placement : Placement} :
    placement ∈ (placements assignments).flatten ↔ ∃ i assignment node,
      assignments[i]? = some assignment ∧ node ∈ assignment.nodes ∧
        placement = ⟨(allNodes assignments).idxOf node, place assignments node i⟩ := by
  rw [List.mem_flatten]
  constructor
  · rintro ⟨places, hplaces, hmem⟩
    obtain ⟨i, hi⟩ := List.getElem?_of_mem hplaces
    obtain ⟨assignment, hassignment, rfl⟩ := placements_getElem?_iff.1 hi
    obtain ⟨node, hnode, rfl⟩ := List.mem_map.1 hmem
    exact ⟨i, _, node, hassignment, hnode, rfl⟩
  · rintro ⟨i, assignment, node, hassignment, hnode, rfl⟩
    exact ⟨_, List.mem_of_getElem? (placements_getElem? hassignment), List.mem_map_of_mem hnode⟩

theorem parcels_getElem?_idxOf (h : node ∈ allNodes assignments) :
    (parcels assignments)[(allNodes assignments).idxOf node]? = some (parcel assignments node) := by
  rw [parcels, List.getElem?_map, List.getElem?_idxOf h]
  rfl

/-- The places that commands get are all that there are in the frames. -/
theorem mem_flatten_placements_iff {placement : Placement} :
    placement ∈ (placements assignments).flatten ↔ ∃ parcel,
      (parcels assignments)[placement.frame]? = some parcel ∧ placement.index < parcel.count := by
  rw [mem_flatten_placements]
  constructor
  · rintro ⟨i, assignment, node, hassignment, hnode, rfl⟩
    exact ⟨_, parcels_getElem?_idxOf (mem_allNodes_of_getElem? hassignment hnode),
      place_lt_length hassignment hnode⟩
  · rintro ⟨_, hparcel, hlt⟩
    rw [parcels, List.getElem?_map, Option.map_eq_some_iff] at hparcel
    obtain ⟨node, hnode, rfl⟩ := hparcel
    obtain ⟨i, assignment, hassignment, hmem, hplace⟩ := exists_place_eq hlt
    obtain ⟨hframe, rfl⟩ := List.getElem?_eq_some_iff.1 hnode
    have hindex : (allNodes assignments).idxOf (allNodes assignments)[placement.frame] =
      placement.frame := (nodup_distinct _).idxOf_getElem _ hframe
    exact ⟨i, assignment, _, hassignment, hmem, by rw [hplace, hindex]⟩

/-- Commands with the same place in the frame of a node are the same. -/
theorem eq_of_place_eq {one another : Assignment} (hone : assignments[i]? = some one)
    (hanother : assignments[j]? = some another) (hnode : node ∈ one.nodes)
    (hnode' : node ∈ another.nodes) (h : place assignments node i = place assignments node j) :
    i = j := by
  rcases Nat.lt_trichotomy i j with hij | rfl | hji
  · exact absurd h (Nat.ne_of_lt (place_lt hij hone hnode))
  · rfl
  · exact absurd h (Nat.ne_of_gt (place_lt hji hanother hnode'))

/-- No place belongs to two commands, nor twice to one. -/
theorem nodup_flatten_placements (hnodup : ∀ assignment ∈ assignments, assignment.nodes.Nodup) :
    (placements assignments).flatten.Nodup := by
  rw [List.nodup_flatten]
  constructor
  · intro places hplaces
    obtain ⟨i, hi⟩ := List.getElem?_of_mem hplaces
    obtain ⟨assignment, hassignment, rfl⟩ := placements_getElem?_iff.1 hi
    refine (hnodup _ (List.mem_of_getElem? hassignment)).map_on fun one hone another _ h => ?_
    exact (List.idxOf_inj (mem_allNodes_of_getElem? hassignment hone)).1 (Placement.mk.inj h).1
  · rw [List.pairwise_iff_getElem]
    intro i j hi hj hij placement hplacement hplacement'
    obtain ⟨one, hone, hplaces⟩ := placements_getElem?_iff.1 (List.getElem?_eq_getElem hi)
    obtain ⟨another, hanother, hplaces'⟩ := placements_getElem?_iff.1 (List.getElem?_eq_getElem hj)
    rw [hplaces] at hplacement
    rw [hplaces'] at hplacement'
    obtain ⟨node, hnode, rfl⟩ := List.mem_map.1 hplacement
    obtain ⟨other, hother, h⟩ := List.mem_map.1 hplacement'
    obtain ⟨hframe, hindex⟩ := Placement.mk.inj h
    obtain rfl := (List.idxOf_inj (mem_allNodes_of_getElem? hanother hother)).1 hframe
    exact Nat.ne_of_lt hij (eq_of_place_eq hone hanother hnode hother hindex.symm)

end Assignment

end ClusterBatch
