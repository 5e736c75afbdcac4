import ClusterBatch.Text.Numeral

/-!
# Requests

A request is a list of arguments, the name of a command first. It travels as an array of
payloads, so that arguments may hold any octets.

Main statement: `Request.length_encode`, the length of a written request is known beforehand.
-/

namespace ClusterBatch

/-- The arguments of one request, the name of the command first. -/
abbrev Request := List Bytes

namespace Request

def clusterSlots : Request := [Bytes.ofAscii "CLUSTER", Bytes.ofAscii "SLOTS"]

/-- The request sent before a command that follows an `ASK` redirect. -/
def asking : Request := [Bytes.ofAscii "ASKING"]

def multi : Request := [Bytes.ofAscii "MULTI"]

def exec : Request := [Bytes.ofAscii "EXEC"]

/-- The request that a node merely acknowledges. -/
def ping : Request := [Bytes.ofAscii "PING"]

def encodeCount (marker : Char) (n : Nat) : Bytes :=
  Bytes.ofChar marker :: Bytes.ofChars (Numeral.ofNat n) ++ Bytes.crlf

def encodeArgument (argument : Bytes) : Bytes :=
  encodeCount '$' argument.length ++ argument ++ Bytes.crlf

def encode (request : Request) : Bytes :=
  encodeCount '*' request.length ++ request.flatMap encodeArgument

/-- The number of octets that a counted line takes. -/
def countSize (n : Nat) : Nat := 1 + (Numeral.ofNat n).length + 2

def argumentsSize : List Bytes → Nat
  | [] => 0
  | argument :: rest => countSize argument.length + argument.length + 2 + argumentsSize rest

def encodedLength (request : Request) : Nat := countSize request.length + argumentsSize request

theorem length_encodeCount (marker : Char) (n : Nat) :
    (encodeCount marker n).length = countSize n := by
  simp [encodeCount, countSize, Bytes.crlf]; omega

theorem length_flatMap_encodeArgument (arguments : List Bytes) :
    (arguments.flatMap encodeArgument).length = argumentsSize arguments := by
  induction arguments with
  | nil => rfl
  | cons argument rest ih =>
    simp only [List.flatMap_cons, encodeArgument, argumentsSize, List.length_append,
      length_encodeCount, ih]
    rfl

/-- A written request is exactly as long as computed. -/
theorem length_encode (request : Request) : request.encode.length = request.encodedLength := by
  rw [encode, encodedLength, List.length_append, length_encodeCount,
    length_flatMap_encodeArgument]

end Request

end ClusterBatch
