import ClusterBatch.Double.Layout
import ClusterBatch.Text.Quoted
import ClusterBatch.Text.Utf8

/-!
# Arguments

An argument of a command is given as text or as octets. How it was given shows only in diagnostic
output: two arguments are equal if they put the same octets on the wire, and they are hashed by
these octets.
-/

namespace ClusterBatch

/-- Why something cannot be an argument or a command. -/
inductive EncodingError where
  /-- NaN has no text that a node would accept. -/
  | notANumber
  /-- A command consists of nothing. -/
  | noName
  /-- The name of a command is empty or not text. -/
  | unusableName
  deriving DecidableEq, Repr

namespace EncodingError

def message : EncodingError → String
  | notANumber => "NaN is not a valid numeric argument"
  | noName => "custom command needs at least a name"
  | unusableName => "command name must be non-empty text"

end EncodingError

/-- A piece of the data that a hasher is fed. -/
inductive Fed where
  | text (content : String)
  /-- How many pieces of a list follow. -/
  | length (count : Nat)
  | octets (content : Bytes)
  deriving DecidableEq, Hashable, Repr

inductive Argument where
  | text (content : String)
  | octets (content : Bytes)
  deriving Inhabited

namespace Argument

/-- What an argument puts on the wire. -/
def content : Argument → Bytes
  | .text content => Utf8.encode content
  | .octets content => content

def text? : Argument → Option String
  | .text content => some content
  | .octets content => Utf8.decode? content

def ofInt (n : Int) : Argument := .text (String.ofList (Numeral.ofInt n))

def ofDouble (d : Double) : Except EncodingError Argument :=
  match d.argumentText? with
  | some digits => .ok (.text (String.ofList digits))
  | none => .error .notANumber

def display (argument : Argument) : String := Utf8.lossy argument.content

def diagnostic : Argument → String
  | .text content => "Text(" ++ Text.quote content ++ ")"
  | .octets content => "Bytes(" ++ Text.quoteOctets content ++ ")"

/-- What an argument feeds a hasher. -/
def fed (argument : Argument) : List Fed :=
  [.length argument.content.length, .octets argument.content]

instance : BEq Argument where
  beq a b := a.content = b.content

instance : Hashable Argument where
  hash a := hash a.fed

end Argument

end ClusterBatch
