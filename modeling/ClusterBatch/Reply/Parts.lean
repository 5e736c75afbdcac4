import ClusterBatch.Reply.Decode

/-!
# What a reply consists of

A reply holds other replies if it is an aggregate. What a reader's limits say about a reply, they
say about everything in it.
-/

namespace ClusterBatch

namespace Reply

mutual

/-- A reply and all that is in it. -/
def parts : Reply → List Reply
  | .array items => .array items :: partsOfItems items
  | .set items => .set items :: partsOfItems items
  | .push items => .push items :: partsOfItems items
  | .map entries => .map entries :: partsOfEntries entries
  | reply => [reply]

def partsOfItems : List Reply → List Reply
  | [] => []
  | item :: items => parts item ++ partsOfItems items

def partsOfEntries : List (Reply × Reply) → List Reply
  | [] => []
  | (key, value) :: entries => parts key ++ parts value ++ partsOfEntries entries

end

mutual

/-- How deep aggregates nest in a reply. An empty aggregate is one deep. -/
def nesting : Reply → Nat
  | .array items => nestingOfItems items + 1
  | .set items => nestingOfItems items + 1
  | .push items => nestingOfItems items + 1
  | .map entries => nestingOfEntries entries + 1
  | _ => 0

def nestingOfItems : List Reply → Nat
  | [] => 0
  | item :: items => max (nesting item) (nestingOfItems items)

def nestingOfEntries : List (Reply × Reply) → Nat
  | [] => 0
  | (key, value) :: entries => max (max (nesting key) (nesting value)) (nestingOfEntries entries)

end

/-- The text of a reply that is written on a line as it is. -/
def line? : Reply → Option Bytes
  | .simple text => some text
  | .error line => some line
  | .bigNumber text => some text
  | _ => none

/-- The number of members, or pairs, of an aggregate. -/
def count? : Reply → Option Nat
  | .array items => some items.length
  | .set items => some items.length
  | .push items => some items.length
  | .map entries => some entries.length
  | _ => none

/-- The length of a payload as it is written. The one of a verbatim string begins with the format
and a colon. -/
def payloadLength? : Reply → Option Nat
  | .bulk data => some data.length
  | .bulkError message => some message.length
  | .verbatim _ data => some (data.length + 4)
  | _ => none

/-- What limits say about a reply apart from what is in it. A line must not hold the octet that
ends it. -/
structure Fits (limits : Limits) (reply : Reply) : Prop where
  line_unbroken : ∀ text ∈ reply.line?, Bytes.cr ∉ text
  count_le : ∀ count ∈ reply.count?, count ≤ limits.elements
  payload_le : ∀ length ∈ reply.payloadLength?, length ≤ limits.payload

/-- Whether a reply that lies `depth` aggregates deep keeps to limits. -/
structure WithinAt (limits : Limits) (depth : Nat) (reply : Reply) : Prop where
  nesting_le : reply.nesting ≤ limits.depth - depth
  fits : ∀ part ∈ reply.parts, part.Fits limits

structure Within (limits : Limits) (reply : Reply) : Prop where
  nesting_le : reply.nesting ≤ limits.depth
  fits : ∀ part ∈ reply.parts, part.Fits limits

/-- Whether the counts and lengths of a reply and of all that is in it are signed words. -/
def Countable (reply : Reply) : Prop :=
  ∀ part ∈ reply.parts, (∀ count ∈ part.count?, count < 0x8000000000000000) ∧
    ∀ length ∈ part.payloadLength?, length < 0x8000000000000000

instance (limits : Limits) (reply : Reply) : Decidable (reply.Fits limits) :=
  decidable_of_iff ((∀ text ∈ reply.line?, Bytes.cr ∉ text)
    ∧ (∀ count ∈ reply.count?, count ≤ limits.elements)
    ∧ ∀ length ∈ reply.payloadLength?, length ≤ limits.payload)
    ⟨fun h => ⟨h.1, h.2.1, h.2.2⟩, fun h => ⟨h.1, h.2, h.3⟩⟩

instance (limits : Limits) (depth : Nat) (reply : Reply) :
    Decidable (reply.WithinAt limits depth) :=
  decidable_of_iff (reply.nesting ≤ limits.depth - depth ∧ ∀ part ∈ reply.parts, part.Fits limits)
    ⟨fun h => ⟨h.1, h.2⟩, fun h => ⟨h.1, h.2⟩⟩

instance (limits : Limits) (reply : Reply) : Decidable (reply.Within limits) :=
  decidable_of_iff (reply.nesting ≤ limits.depth ∧ ∀ part ∈ reply.parts, part.Fits limits)
    ⟨fun h => ⟨h.1, h.2⟩, fun h => ⟨h.1, h.2⟩⟩

instance (reply : Reply) : Decidable reply.Countable :=
  inferInstanceAs (Decidable (∀ part ∈ reply.parts, _))

theorem partsOfItems_eq (items : List Reply) : partsOfItems items = items.flatMap parts := by
  induction items with
  | nil => rfl
  | cons item items ih => rw [partsOfItems, ih, List.flatMap_cons]

theorem partsOfEntries_eq (entries : List (Reply × Reply)) :
    partsOfEntries entries = entries.flatMap fun entry => entry.1.parts ++ entry.2.parts := by
  induction entries with
  | nil => rfl
  | cons entry entries ih => rw [partsOfEntries, ih, List.flatMap_cons]

theorem nestingOfItems_le {items : List Reply} {n : Nat} :
    nestingOfItems items ≤ n ↔ ∀ item ∈ items, item.nesting ≤ n := by
  induction items with
  | nil => simp [nestingOfItems]
  | cons item items ih => simp only [nestingOfItems, List.forall_mem_cons, Nat.max_le, ih]

theorem nestingOfEntries_le {entries : List (Reply × Reply)} {n : Nat} :
    nestingOfEntries entries ≤ n ↔
      ∀ entry ∈ entries, entry.1.nesting ≤ n ∧ entry.2.nesting ≤ n := by
  induction entries with
  | nil => simp [nestingOfEntries]
  | cons entry entries ih => simp only [nestingOfEntries, List.forall_mem_cons, Nat.max_le, ih]

theorem self_mem_parts (reply : Reply) : reply ∈ reply.parts := by
  cases reply <;> simp [parts]

/-- What holds of replies without members, and of aggregates if it holds of their members, holds of
all replies. -/
theorem induction {p : Reply → Prop} (leaf : ∀ reply, reply.count? = none → p reply)
    (array : ∀ items, (∀ item ∈ items, p item) → p (.array items))
    (set : ∀ items, (∀ item ∈ items, p item) → p (.set items))
    (push : ∀ items, (∀ item ∈ items, p item) → p (.push items))
    (map : ∀ entries, (∀ entry ∈ entries, p entry.1 ∧ p entry.2) → p (.map entries))
    (reply : Reply) : p reply :=
  match reply with
  | .array items => array items fun item _ => induction leaf array set push map item
  | .set items => set items fun item _ => induction leaf array set push map item
  | .push items => push items fun item _ => induction leaf array set push map item
  | .map entries => map entries fun entry _ =>
    ⟨induction leaf array set push map entry.1, induction leaf array set push map entry.2⟩
  | .simple _ | .error _ | .integer _ | .bulk _ | .null | .boolean _ | .double _ | .bigNumber _
  | .bulkError _ | .verbatim _ _ => leaf _ rfl
termination_by sizeOf reply
decreasing_by
  all_goals have hlt := List.sizeOf_lt_of_mem ‹_›
  · simpa using Nat.lt_add_left 1 hlt
  · simpa using Nat.lt_add_left 1 hlt
  · simpa using Nat.lt_add_left 1 hlt
  all_goals
    obtain ⟨key, value⟩ := entry
    simp only [Prod.mk.sizeOf_spec] at hlt
    simp
    omega

end Reply

end ClusterBatch
