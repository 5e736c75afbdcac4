import ClusterBatch.Text.Utf8

/-!
# Why a frame cannot be read

The causes for which octets are not a frame, and their messages. Only one of them is not final:
octets may end before the frame does, and more of them may complete it.
-/

namespace ClusterBatch

/-- A breach of the frame structure itself. -/
inductive FrameFault where
  /-- A carriage return in a line is not followed by a line feed. -/
  | strayReturn
  /-- A payload is not followed by the end-of-line mark. -/
  | unterminatedPayload
  /-- The line of a null is not empty. -/
  | nullWithData
  deriving DecidableEq, Repr

/-- Why octets do not begin with a frame. -/
inductive DecodeError where
  /-- The octets end before the frame does. -/
  | incomplete
  /-- The first octet marks no kind of frame. -/
  | unknownMarker (octet : UInt8)
  /-- A line that must be a numeral is none. -/
  | invalidInteger (line : Bytes)
  /-- A length is negative where that has no meaning. -/
  | invalidLength
  | malformed (fault : FrameFault)
  /-- An aggregate announces more members than are accepted. -/
  | tooManyElements (count : Nat)
  /-- Aggregates are nested deeper than is accepted. -/
  | tooDeep (depth : Nat)
  /-- A payload is longer than is accepted. -/
  | payloadTooLong (length : Nat) (limit : Nat)
  | invalidDouble (line : Bytes)
  | invalidBoolean
  /-- A verbatim string does not begin with a format and a colon. -/
  | invalidVerbatim
  deriving DecidableEq, Repr

namespace FrameFault

def message : FrameFault → String
  | strayReturn => "expected CRLF"
  | unterminatedPayload => "bulk payload not terminated by CRLF"
  | nullWithData => "null frame carries data"

end FrameFault

namespace DecodeError

def octetText (octet : UInt8) : String :=
  String.ofList [Nat.digitChar (octet.toNat / 16), Nat.digitChar (octet.toNat % 16)]

def message : DecodeError → String
  | incomplete => "incomplete data"
  | unknownMarker octet => "invalid prefix byte: 0x" ++ octetText octet
  | invalidInteger line => "invalid integer: " ++ Utf8.lossy line
  | invalidLength => "invalid length"
  | malformed fault => "protocol error: " ++ fault.message
  | tooManyElements count => s!"collection too large: {count} elements exceeds limit"
  | tooDeep depth => s!"nesting too deep: depth {depth} exceeds limit"
  | payloadTooLong length limit =>
    s!"bulk string too long: {length} bytes exceeds {limit} byte limit"
  | invalidDouble line => "invalid double: " ++ Utf8.lossy line
  | invalidBoolean => "invalid boolean: expected 't' or 'f'"
  | invalidVerbatim => "invalid verbatim string format"

end DecodeError

end ClusterBatch
