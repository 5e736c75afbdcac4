import ClusterBatch.Proofs.RoundTrip
import Mathlib.Data.List.Basic

/-!
# Attributes are passed over

A node may put attributes in front of a reply and of everything in it: members, keys, values, and
what stands in other attributes. They are written like maps and say nothing about the reply itself.
An annotated reply is a tree of its own here, with the attributes as nodes of it, and is read as the
reply that remains without them.

An attribute is held to the limits as a map in its place would be; the value behind it lies no
deeper than without it.

Main statements: `Annotated.readsBack` for frames at any depth, `Annotated.decode_encode`.
-/

namespace ClusterBatch

inductive Sequence where
  | array | set | push
  deriving DecidableEq, Repr

namespace Sequence

def marker : Sequence → Marker
  | array => .array
  | set => .set
  | push => .push

def build : Sequence → List Reply → Reply
  | array => .array
  | set => .set
  | push => .push

end Sequence

/-- A reply as a node may send it, with attributes in front of it and of what is in it. -/
inductive Annotated where
  /-- A reply without members. -/
  | plain (reply : Reply) (leaf : reply.count? = none)
  | sequence (kind : Sequence) (items : List Annotated)
  | map (entries : List (Annotated × Annotated))
  /-- A value behind an attribute, which consists of pairs. -/
  | noted (pairs : List (Annotated × Annotated)) (value : Annotated)

namespace Annotated

mutual

def reply : Annotated → Reply
  | .plain reply _ => reply
  | .sequence kind items => kind.build (repliesOfItems items)
  | .map entries => .map (repliesOfEntries entries)
  | .noted _ value => reply value

def repliesOfItems : List Annotated → List Reply
  | [] => []
  | item :: items => reply item :: repliesOfItems items

def repliesOfEntries : List (Annotated × Annotated) → List (Reply × Reply)
  | [] => []
  | (key, value) :: entries => (reply key, reply value) :: repliesOfEntries entries

end

mutual

def encode : Annotated → Bytes
  | .plain reply _ => reply.encode
  | .sequence kind items => Reply.encodeCount kind.marker items.length ++ encodeItems items
  | .map entries => Reply.encodeCount .map entries.length ++ encodeEntries entries
  | .noted pairs value =>
    Reply.encodeCount .attributes pairs.length ++ encodeEntries pairs ++ encode value

def encodeItems : List Annotated → Bytes
  | [] => []
  | item :: items => encode item ++ encodeItems items

def encodeEntries : List (Annotated × Annotated) → Bytes
  | [] => []
  | (key, value) :: entries => encode key ++ encode value ++ encodeEntries entries

end

mutual

/-- The attributes of a reply that lies `depth` aggregates and attributes deep: each with how deep
it lies itself, as the map of its pairs. -/
def attributes : Nat → Annotated → List (Nat × Reply)
  | _, .plain _ _ => []
  | depth, .sequence _ items => attributesOfItems (depth + 1) items
  | depth, .map entries => attributesOfEntries (depth + 1) entries
  | depth, .noted pairs value =>
    (depth, .map (repliesOfEntries pairs)) ::
      (attributesOfEntries (depth + 1) pairs ++ attributes depth value)

def attributesOfItems : Nat → List Annotated → List (Nat × Reply)
  | _, [] => []
  | depth, item :: items => attributes depth item ++ attributesOfItems depth items

def attributesOfEntries : Nat → List (Annotated × Annotated) → List (Nat × Reply)
  | _, [] => []
  | depth, (key, value) :: entries =>
    attributes depth key ++ attributes depth value ++ attributesOfEntries depth entries

end

variable {limits : Limits} {depth : Nat}

theorem repliesOfItems_eq (items : List Annotated) : repliesOfItems items = items.map reply := by
  induction items with
  | nil => rfl
  | cons item items ih => rw [repliesOfItems, ih, List.map_cons]

theorem repliesOfEntries_eq (entries : List (Annotated × Annotated)) :
    repliesOfEntries entries = entries.map fun entry => (entry.1.reply, entry.2.reply) := by
  induction entries with
  | nil => rfl
  | cons entry entries ih => rw [repliesOfEntries, ih, List.map_cons]

theorem encodeItems_eq (items : List Annotated) : encodeItems items = items.flatMap encode := by
  induction items with
  | nil => rfl
  | cons item items ih => rw [encodeItems, ih, List.flatMap_cons]

theorem encodeEntries_eq (entries : List (Annotated × Annotated)) :
    encodeEntries entries = entries.flatMap fun entry => entry.1.encode ++ entry.2.encode := by
  induction entries with
  | nil => rfl
  | cons entry entries ih => rw [encodeEntries, ih, List.flatMap_cons]

theorem attributesOfItems_eq (depth : Nat) (items : List Annotated) :
    attributesOfItems depth items = items.flatMap (attributes depth) := by
  induction items with
  | nil => rfl
  | cons item items ih => rw [attributesOfItems, ih, List.flatMap_cons]

theorem attributesOfEntries_eq (depth : Nat) (entries : List (Annotated × Annotated)) :
    attributesOfEntries depth entries =
      entries.flatMap fun entry => entry.1.attributes depth ++ entry.2.attributes depth := by
  induction entries with
  | nil => rfl
  | cons entry entries ih => rw [attributesOfEntries, ih, List.flatMap_cons]

theorem sizeOf_lt_of_mem {pairs : List (Annotated × Annotated)} {pair : Annotated × Annotated}
    (h : pair ∈ pairs) : sizeOf pair.1 < sizeOf pairs ∧ sizeOf pair.2 < sizeOf pairs := by
  have hlt := List.sizeOf_lt_of_mem h
  obtain ⟨key, value⟩ := pair
  simp only [Prod.mk.sizeOf_spec] at hlt ⊢
  omega

/-- What holds of replies without members, of aggregates if it holds of their members, and of values
behind an attribute if it holds of both, holds of all annotated replies. -/
theorem induction {p : Annotated → Prop}
    (plain : ∀ reply leaf, p (.plain reply leaf))
    (sequence : ∀ kind items, (∀ item ∈ items, p item) → p (.sequence kind items))
    (map : ∀ entries, (∀ entry ∈ entries, p entry.1 ∧ p entry.2) → p (.map entries))
    (noted : ∀ pairs value, (∀ pair ∈ pairs, p pair.1 ∧ p pair.2) → p value →
      p (.noted pairs value))
    (annotated : Annotated) : p annotated :=
  match annotated with
  | .plain reply leaf => plain reply leaf
  | .sequence kind items =>
    sequence kind items fun item _ => induction plain sequence map noted item
  | .map entries => map entries fun entry _ =>
    ⟨induction plain sequence map noted entry.1, induction plain sequence map noted entry.2⟩
  | .noted pairs value => noted pairs value
    (fun pair _ =>
      ⟨induction plain sequence map noted pair.1, induction plain sequence map noted pair.2⟩)
    (induction plain sequence map noted value)
termination_by sizeOf annotated
decreasing_by
  · have hlt := List.sizeOf_lt_of_mem ‹item ∈ items›
    rw [Annotated.sequence.sizeOf_spec]
    omega
  any_goals have hlt := sizeOf_lt_of_mem ‹_›
  all_goals
    simp only [Annotated.map.sizeOf_spec, Annotated.noted.sizeOf_spec]
    omega

/-! ## Limits -/

/-- Whether an annotated reply that lies `depth` deep is held to limits: the reply as always, and
every attribute as the map of its pairs, in the place where it stands. -/
structure KeepsAt (limits : Limits) (depth : Nat) (annotated : Annotated) : Prop where
  countable : annotated.reply.Countable
  within : annotated.reply.WithinAt limits depth
  attributes : ∀ note ∈ annotated.attributes depth,
    note.2.Countable ∧ note.2.WithinAt limits note.1

theorem keepsAt_sequence {kind : Sequence} {items : List Annotated}
    (h : (sequence kind items).KeepsAt limits depth) :
    items.length < 0x8000000000000000 ∧ depth < limits.depth ∧ items.length ≤ limits.elements ∧
      ∀ item ∈ items, item.KeepsAt limits (depth + 1) := by
  obtain ⟨hcountable, hwithin, hattributes⟩ := h
  rw [reply, repliesOfItems_eq] at hcountable hwithin
  obtain ⟨hlt, hcounts⟩ : (items.map reply).length < 0x8000000000000000 ∧
      ∀ item ∈ items.map reply, item.Countable := by
    cases kind <;> exact Reply.countable_items rfl rfl hcountable
  obtain ⟨hdepth, hle, hitems⟩ : depth < limits.depth ∧
      (items.map reply).length ≤ limits.elements ∧
        ∀ item ∈ items.map reply, item.WithinAt limits (depth + 1) := by
    cases kind <;> exact (Reply.withinAt_items rfl rfl rfl).1 hwithin
  rw [List.length_map] at hlt hle
  rw [attributes, attributesOfItems_eq] at hattributes
  refine ⟨hlt, hdepth, hle, fun item hitem => ⟨?_, ?_, fun note hnote => ?_⟩⟩
  · exact hcounts _ (List.mem_map_of_mem hitem)
  · exact hitems _ (List.mem_map_of_mem hitem)
  · exact hattributes note (List.mem_flatMap.2 ⟨item, hitem, hnote⟩)

theorem keepsAt_map {entries : List (Annotated × Annotated)}
    (h : (map entries).KeepsAt limits depth) :
    entries.length < 0x8000000000000000 ∧ depth < limits.depth ∧
      entries.length ≤ limits.elements ∧
        ∀ entry ∈ entries,
          entry.1.KeepsAt limits (depth + 1) ∧ entry.2.KeepsAt limits (depth + 1) := by
  obtain ⟨hcountable, hwithin, hattributes⟩ := h
  rw [reply, repliesOfEntries_eq] at hcountable hwithin
  obtain ⟨hlt, hcounts⟩ := Reply.countable_map hcountable
  obtain ⟨hdepth, hle, hentries⟩ := Reply.withinAt_map.1 hwithin
  rw [List.length_map] at hlt hle
  rw [List.forall_mem_map] at hcounts hentries
  rw [attributes, attributesOfEntries_eq] at hattributes
  refine ⟨hlt, hdepth, hle, fun entry hentry => ?_⟩
  have hnote {note} (h : note ∈ entry.1.attributes (depth + 1) ++
      entry.2.attributes (depth + 1)) :=
    hattributes note (List.mem_flatMap.2 ⟨entry, hentry, h⟩)
  exact ⟨⟨(hcounts entry hentry).1, (hentries entry hentry).1,
      fun _ h => hnote (List.mem_append_left _ h)⟩,
    ⟨(hcounts entry hentry).2, (hentries entry hentry).2,
      fun _ h => hnote (List.mem_append_right _ h)⟩⟩

/-- An attribute is held to limits like a map in its place, and the value behind it as if the
attribute were not there. -/
theorem keepsAt_noted {pairs : List (Annotated × Annotated)} {value : Annotated}
    (h : (noted pairs value).KeepsAt limits depth) :
    (map pairs).KeepsAt limits depth ∧ value.KeepsAt limits depth := by
  obtain ⟨hcountable, hwithin, hattributes⟩ := h
  rw [attributes, List.forall_mem_cons, List.forall_mem_append] at hattributes
  obtain ⟨⟨hpairs, hpairsWithin⟩, hinner, hvalue⟩ := hattributes
  exact ⟨⟨hpairs, hpairsWithin, hinner⟩, ⟨hcountable, hwithin, hvalue⟩⟩

/-! ## Reading -/

open Reader Reply

/-- Whether an annotated reply is read as the reply without its attributes, at every depth where it
keeps to the limits, whatever follows it and whatever bound its octets stay below. -/
def ReadsBack (limits : Limits) (annotated : Annotated) : Prop :=
  ∀ bound depth rest, annotated.KeepsAt limits depth → annotated.encode.length ≤ bound →
    readFrame limits bound depth (annotated.encode ++ rest) = .ok (annotated.reply, rest)

theorem readsBack_sequence {kind : Sequence} {items : List Annotated}
    (ih : ∀ item ∈ items, item.ReadsBack limits) : (sequence kind items).ReadsBack limits := by
  intro bound depth rest hkeeps hbound
  obtain ⟨hlt, hdepth, hle, hitems⟩ := keepsAt_sequence hkeeps
  have hread (inner : Nat → Reader Reply) : readContents limits inner depth kind.marker
      = ofMembers kind.build <$> readMembers limits (depth + 1) (inner (depth + 1)) := by
    cases kind <;> rfl
  rw [encode, Annotated.encodeItems_eq] at hbound ⊢
  rw [reply, repliesOfItems_eq]
  refine readFrame_aggregate reply rest hread hlt ⟨hdepth, hle⟩ hbound ?_
  intro item hitem bound rest
  exact ih item hitem bound (depth + 1) rest (hitems item hitem)

theorem readPair_entry {bound : Nat} {entry : Annotated × Annotated}
    (ih : entry.1.ReadsBack limits ∧ entry.2.ReadsBack limits)
    (hkeeps : entry.1.KeepsAt limits depth ∧ entry.2.KeepsAt limits depth)
    (hbound : (entry.1.encode ++ entry.2.encode).length ≤ bound) (rest : Bytes) :
    readPair (readFrame limits bound depth) (entry.1.encode ++ entry.2.encode ++ rest)
      = .ok ((entry.1.reply, entry.2.reply), rest) := by
  rw [List.length_append] at hbound
  have hkey := ih.1 bound depth (entry.2.encode ++ rest) hkeeps.1 (by omega)
  have hvalue := ih.2 bound depth rest hkeeps.2 (by omega)
  rw [List.append_assoc, readPair, bind_of_ok hkey, bind_of_ok hvalue]
  rfl

theorem readsBack_map {entries : List (Annotated × Annotated)}
    (ih : ∀ entry ∈ entries, entry.1.ReadsBack limits ∧ entry.2.ReadsBack limits) :
    (map entries).ReadsBack limits := by
  intro bound depth rest hkeeps hbound
  obtain ⟨hlt, hdepth, hle, hentries⟩ := keepsAt_map hkeeps
  have hread (inner : Nat → Reader Reply) : readContents limits inner depth .map
      = ofMembers .map <$> readMembers limits (depth + 1) (readPair (inner (depth + 1))) := rfl
  rw [encode, Annotated.encodeEntries_eq] at hbound ⊢
  rw [reply, repliesOfEntries_eq]
  refine readFrame_aggregate _ rest hread hlt ⟨hdepth, hle⟩ hbound ?_
  intro entry hentry bound rest hbound
  exact readPair_entry (ih entry hentry) (hentries entry hentry) hbound rest

theorem readsBack_noted {pairs : List (Annotated × Annotated)} {value : Annotated}
    (ihpairs : ∀ pair ∈ pairs, pair.1.ReadsBack limits ∧ pair.2.ReadsBack limits)
    (ihvalue : value.ReadsBack limits) : (noted pairs value).ReadsBack limits := by
  intro bound depth rest hkeeps hbound
  obtain ⟨hattribute, hvalue⟩ := keepsAt_noted hkeeps
  obtain ⟨hlt, hdepth, hle, hpairs⟩ := keepsAt_map hattribute
  rw [encode, Annotated.encodeEntries_eq] at hbound ⊢
  cases bound with
  | zero => simp [encodeCount, encodeLine] at hbound
  | succ bound =>
    simp only [encodeCount, encodeLine, List.length_append, List.length_cons] at hbound
    -- The pairs lie one deeper, the value does not.
    have hpair : ∀ pair ∈ pairs, ∀ rest, readPair (readFrame limits bound (depth + 1))
        (pair.1.encode ++ pair.2.encode ++ rest) = .ok ((pair.1.reply, pair.2.reply), rest) := by
      intro pair hpair rest
      have hle := length_le_of_mem (fun pair => pair.1.encode ++ pair.2.encode) hpair
      exact readPair_entry (ihpairs pair hpair) (hpairs pair hpair) (by omega) rest
    have hmembers := readMembers_append _ (value.encode ++ rest) hlt hle hdepth hpair
    have hread := ihvalue bound depth rest hvalue (by omega)
    rw [encodeCount, encodeLine, List.append_assoc, List.append_assoc, List.cons_append,
      List.cons_append, readFrame_marker]
    simp only [readContents]
    rw [bind_of_ok hmembers]
    exact hread

theorem readsBack (limits : Limits) (annotated : Annotated) : annotated.ReadsBack limits := by
  induction annotated using Annotated.induction with
  | plain reply leaf =>
    intro bound depth rest hkeeps hbound
    exact Reply.readsBack limits reply bound depth rest hkeeps.countable hkeeps.within hbound
  | sequence kind items ih => exact readsBack_sequence ih
  | map entries ih => exact readsBack_map ih
  | noted pairs value ihpairs ihvalue => exact readsBack_noted ihpairs ihvalue

/-- Attributes are passed over wherever they stand. An annotated reply is read as the reply without
them, with all that follows left over, if the reply keeps to the limits and every attribute keeps to
them as a map in its place. -/
theorem decode_encode (limits : Limits) (annotated : Annotated) (rest : Bytes)
    (hcountable : annotated.reply.Countable) (hwithin : annotated.reply.Within limits)
    (hattributes : ∀ note ∈ annotated.attributes 0,
      note.2.Countable ∧ note.2.WithinAt limits note.1) :
    decode limits (annotated.encode ++ rest) = .ok (annotated.reply, rest) :=
  readsBack limits annotated _ 0 rest ⟨hcountable, withinAt_zero.2 hwithin, hattributes⟩ (by simp)

/-- Attributes at the top, in front of a key, of the last member and in another attribute. -/
theorem decode_encode_everywhere :
    let title :=
      noted [(plain (.simple [97]) rfl, plain (.integer 1) rfl)] (plain (.simple [98]) rfl)
    let key := noted [] (noted [(title, plain .null rfl)] (plain (.simple [107]) rfl))
    let items := sequence .array [plain .null rfl, title]
    let annotated := noted [(title, title)] (map [(key, items)])
    let limits : Limits := ⟨3, 2, 0⟩
    annotated.reply.Countable ∧ annotated.reply.Within limits ∧
      (∀ note ∈ annotated.attributes 0, note.2.Countable ∧ note.2.WithinAt limits note.1) ∧
      decode limits (annotated.encode ++ [43]) =
        .ok (.map [(.simple [107], .array [.null, .simple [98]])], [43]) := by
  intro title key items annotated limits
  have hcountable : annotated.reply.Countable := by decide
  have hwithin : annotated.reply.Within limits := by decide
  have hattributes : ∀ note ∈ annotated.attributes 0,
      note.2.Countable ∧ note.2.WithinAt limits note.1 := by decide
  exact ⟨hcountable, hwithin, hattributes,
    decode_encode limits annotated [43] hcountable hwithin hattributes⟩

end Annotated

end ClusterBatch
