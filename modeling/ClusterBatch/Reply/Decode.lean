import ClusterBatch.Reply.Basic
import ClusterBatch.Reply.DecodeError
import ClusterBatch.Reply.Marker

/-!
# Reading replies

`Reply.decode` takes one frame off the front of octets and returns the reply with the octets
behind it. Limits on depth, member counts and payload lengths are checked before any member or
payload is looked at, so a frame cannot make the reader do more than the limits allow.

Aggregates nest, and an attribute is followed by the frame it annotates. Every such step
consumes octets, so their number bounds the steps; `Reply.readFrame` recurses on that bound.
-/

namespace ClusterBatch

/-- What a reader accepts. -/
structure Limits where
  /-- How deep aggregates may nest. -/
  depth : Nat := 16
  /-- How many members, or pairs, one aggregate may have. -/
  elements : Nat := 0x1000000
  /-- How many octets one payload may have. -/
  payload : Nat := 0x20000000
  deriving DecidableEq, Repr, Inhabited

/-- A reader takes octets off the front of those at hand and makes a value of them, unless they
are not what it expects. -/
abbrev Reader (α : Type) := StateT Bytes (Except DecodeError) α

namespace Reply

def readOctet : Reader UInt8
  | [] => .error .incomplete
  | octet :: rest => .ok (octet, rest)

/-- The octets up to the end of the line, which is taken off as well. -/
def readLine : Reader Bytes := fun data =>
  match data.dropWhile (· ≠ Bytes.cr) with
  | _ :: b :: rest =>
    if b = Bytes.lf then .ok (data.takeWhile (· ≠ Bytes.cr), rest)
    else .error (.malformed .strayReturn)
  | _ => .error .incomplete

/-- The given number of octets and the end-of-line mark behind them, which is taken off as
well. -/
def readOctets (count : Nat) : Reader Bytes := fun data =>
  match data.drop count with
  | a :: b :: rest =>
    if a = Bytes.cr ∧ b = Bytes.lf then .ok (data.take count, rest)
    else .error (.malformed .unterminatedPayload)
  | _ => .error .incomplete

def readInteger : Reader Int64 := do
  let line ← readLine
  match Numeral.int64? line.chars with
  | some n => pure n
  | none => throw (.invalidInteger line)

/-- A line that is a length or count. Minus one stands for the absence of what is counted. -/
def readLength : Reader (Option Nat) := do
  let n ← readInteger
  if n.toInt = -1 then pure none
  else if n.toInt < 0 then throw .invalidLength
  else pure (some n.toInt.toNat)

/-- The length of a payload and the payload, if it is not absent. -/
def readPayload (limits : Limits) : Reader (Option Bytes) := do
  match ← readLength with
  | none => pure none
  | some length =>
    if limits.payload < length then throw (.payloadTooLong length limits.payload)
    else some <$> readOctets length

/-- The payload of a kind of frame that is never absent. -/
def readPresentPayload (limits : Limits) : Reader Bytes := do
  match ← readPayload limits with
  | some payload => pure payload
  | none => throw .invalidLength

def readCount (limits : Limits) : Reader (Option Nat) := do
  match ← readLength with
  | none => pure none
  | some count =>
    if limits.elements < count then throw (.tooManyElements count) else pure (some count)

def readMany {α : Type} (read : Reader α) : Nat → Reader (List α)
  | 0 => pure []
  | count + 1 => do
    let first ← read
    let others ← readMany read count
    pure (first :: others)

def readPair {α : Type} (read : Reader α) : Reader (α × α) := do
  let key ← read
  let value ← read
  pure (key, value)

/-- The members of an aggregate that lies `depth` aggregates deep, itself included, if it is not
absent. -/
def readMembers {α : Type} (limits : Limits) (depth : Nat) (read : Reader α) :
    Reader (Option (List α)) := do
  match ← readCount limits with
  | none => pure none
  | some count =>
    if limits.depth < depth then throw (.tooDeep depth) else some <$> readMany read count

/-- The aggregate with the given members, or the null if they are absent. -/
def ofMembers {α : Type} (build : List α → Reply) : Option (List α) → Reply
  | some members => build members
  | none => .null

def verbatimOfPayload? : Bytes → Option Reply
  | a :: b :: c :: colon :: text =>
    if colon = Bytes.ofChar ':' then some (.verbatim ⟨a, b, c⟩ text) else none
  | _ => none

def booleanOfLine? (line : Bytes) : Option Bool :=
  if line = [Bytes.ofChar 't'] then some true
  else if line = [Bytes.ofChar 'f'] then some false
  else none

/-- What stands behind the marker of a frame that lies `depth` aggregates deep. Frames inside it
are left to `inner`, which is told how deep they lie. -/
def readContents (limits : Limits) (inner : Nat → Reader Reply) (depth : Nat) :
    Marker → Reader Reply
  | .simple => Reply.simple <$> readLine
  | .error => Reply.error <$> readLine
  | .integer => Reply.integer <$> readInteger
  | .bulk => do
    match ← readPayload limits with
    | some payload => pure (.bulk payload)
    | none => pure .null
  | .bulkError => Reply.bulkError <$> readPresentPayload limits
  | .verbatim => do
    match verbatimOfPayload? (← readPresentPayload limits) with
    | some reply => pure reply
    | none => throw .invalidVerbatim
  | .null => do
    if (← readLine) = [] then pure .null else throw (.malformed .nullWithData)
  | .boolean => do
    match booleanOfLine? (← readLine) with
    | some value => pure (.boolean value)
    | none => throw .invalidBoolean
  | .double => do
    let line ← readLine
    match Double.ofText? line.chars with
    | some value => pure (.double value)
    | none => throw (.invalidDouble line)
  | .bigNumber => Reply.bigNumber <$> readLine
  | .array => ofMembers .array <$> readMembers limits (depth + 1) (inner (depth + 1))
  | .set => ofMembers .set <$> readMembers limits (depth + 1) (inner (depth + 1))
  | .push => ofMembers .push <$> readMembers limits (depth + 1) (inner (depth + 1))
  | .map => ofMembers .map <$> readMembers limits (depth + 1) (readPair (inner (depth + 1)))
  | .attributes => do
    match ← readMembers limits (depth + 1) (readPair (inner (depth + 1))) with
    | some _ => inner depth
    | none => pure .null

/-- One frame, `depth` aggregates deep. The first argument bounds how many aggregates and
attributes may be entered. -/
def readFrame (limits : Limits) : Nat → Nat → Reader Reply
  | 0, _ => throw .incomplete
  | bound + 1, depth => do
    let octet ← readOctet
    match Marker.ofByte? octet with
    | some marker => readContents limits (readFrame limits bound) depth marker
    | none => throw (.unknownMarker octet)

def decode (limits : Limits) (data : Bytes) : Except DecodeError (Reply × Bytes) :=
  readFrame limits data.length 0 data

/-- As many whole frames as can be taken off the front of octets, why no further one can, and the
octets that remain. -/
def decodeAll (limits : Limits) (data : Bytes) : List Reply × DecodeError × Bytes :=
  go data.length data
where
  /-- Takes at most `bound` frames off. -/
  go : Nat → Bytes → List Reply × DecodeError × Bytes
    | 0, data => ([], .incomplete, data)
    | bound + 1, data =>
      match decode limits data with
      | .error e => ([], e, data)
      | .ok (reply, rest) =>
        let (replies, e, rest) := go bound rest
        (reply :: replies, e, rest)

end Reply

end ClusterBatch
