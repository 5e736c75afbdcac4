import ClusterBatch.Bytes

/-!
# Markers

The first octet of a frame says what kind of frame it is. An attribute is no reply of its own: it
annotates the frame that follows it.

Main statement: `Marker.ofByte?_eq_some_iff`, an octet is read as the marker it is written for.
-/

namespace ClusterBatch

inductive Marker where
  | simple | error | integer | bulk | null | array | boolean | double | bigNumber | bulkError
  | verbatim | map | set | push | attributes
  deriving DecidableEq, Repr

namespace Marker

def char : Marker → Char
  | simple => '+'
  | error => '-'
  | integer => ':'
  | bulk => '$'
  | null => '_'
  | array => '*'
  | boolean => '#'
  | double => ','
  | bigNumber => '('
  | bulkError => '!'
  | verbatim => '='
  | map => '%'
  | set => '~'
  | push => '>'
  | attributes => '|'

def byte (marker : Marker) : UInt8 := Bytes.ofChar marker.char

def all : List Marker :=
  [simple, error, integer, bulk, null, array, boolean, double, bigNumber, bulkError, verbatim,
    map, set, push, attributes]

def ofByte? (b : UInt8) : Option Marker := all.find? fun marker => marker.byte = b

@[simp] theorem ofByte?_byte (marker : Marker) : ofByte? marker.byte = some marker := by
  cases marker <;> decide

theorem ofByte?_eq_some_iff {b : UInt8} {marker : Marker} :
    ofByte? b = some marker ↔ b = marker.byte := by
  constructor
  · intro h
    unfold ofByte? at h
    have found := List.find?_some h
    simp only [decide_eq_true_eq] at found
    exact found.symm
  · rintro rfl
    exact ofByte?_byte marker

end Marker

end ClusterBatch
