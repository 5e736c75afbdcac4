import ClusterBatch.Slot.Crc16

/-!
# Slots

A cluster divides its keys among 16384 slots, and its nodes among ranges of slots. The slot of a
key is a checksum of its hash tag: the part between the first opening brace and the next closing
one, if there is such a part and it is not empty, and the whole key otherwise. Keys with the same
tag therefore lie on the same slot.

Main statement: `Slot.ofKey_lt`.
-/

namespace ClusterBatch.Slot

def count : Nat := 16384

def opening : UInt8 := Bytes.ofChar '\x7b'

def closing : UInt8 := Bytes.ofChar '\x7d'

/-- The part of a key that decides its slot. -/
def hashTag (key : Bytes) : Bytes :=
  match key.dropWhile (· ≠ opening) with
  | [] => key
  | _ :: inside =>
    let tag := inside.takeWhile (· ≠ closing)
    if tag = [] ∨ tag.length = inside.length then key else tag

def ofKey (key : Bytes) : Nat := (Crc16.checksum (hashTag key)).toNat % count

theorem ofKey_lt (key : Bytes) : ofKey key < count := Nat.mod_lt _ (by decide)

end ClusterBatch.Slot
