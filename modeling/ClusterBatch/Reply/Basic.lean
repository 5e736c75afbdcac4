import ClusterBatch.Double.Layout
import ClusterBatch.Text.Utf8

/-!
# Replies

A reply is what a node answers to one request. Its shape depends on the request, so every kind of
reply is a constructor and callers take it apart by cases. Payloads are octets; nothing is said
about their encoding.
-/

namespace ClusterBatch

/-- The three octets that name the format of a verbatim string. -/
structure VerbatimFormat where
  first : UInt8
  second : UInt8
  third : UInt8
  deriving DecidableEq, Repr, Inhabited

namespace VerbatimFormat

def toList (format : VerbatimFormat) : Bytes := [format.first, format.second, format.third]

end VerbatimFormat

inductive Reply where
  /-- A status line. -/
  | simple (text : Bytes)
  /-- An error line, without its marker. -/
  | error (line : Bytes)
  | integer (value : Int64)
  /-- A payload of any octets. -/
  | bulk (data : Bytes)
  | null
  | array (items : List Reply)
  | boolean (value : Bool)
  | double (value : Double)
  /-- An integer of any size, kept as its text. -/
  | bigNumber (text : Bytes)
  /-- An error message of any octets. -/
  | bulkError (message : Bytes)
  | verbatim (format : VerbatimFormat) (data : Bytes)
  /-- Key and value pairs in the order they arrived. -/
  | map (entries : List (Reply × Reply))
  | set (items : List Reply)
  /-- A message outside the order of requests. -/
  | push (items : List Reply)
  deriving Inhabited

namespace Reply

/-- The status line that acknowledges a request. -/
def ok : Reply := .simple (Bytes.ofAscii "OK")

def isNull : Reply → Bool
  | .null => true
  | _ => false

def isOk : Reply → Bool
  | .simple text => text = Bytes.ofAscii "OK"
  | _ => false

/-- The message of an error, on a line or of any octets. -/
def errorMessage? : Reply → Option Bytes
  | .error line => some line
  | .bulkError message => some message
  | _ => none

def isError (reply : Reply) : Bool := reply.errorMessage?.isSome

/-- The payload of a reply that consists of text. -/
def payload? : Reply → Option Bytes
  | .simple text => some text
  | .bulk data => some data
  | .bigNumber text => some text
  | .verbatim _ data => some data
  | _ => none

/-- The value of an integer, or of a payload that is the numeral of one. -/
def asInteger? : Reply → Option Int64
  | .integer value => some value
  | .bulk data => Numeral.int64? data.chars
  | _ => none

def items? : Reply → Option (List Reply)
  | .array items => some items
  | .set items => some items
  | .push items => some items
  | _ => none

mutual

/-- Whether two replies are equal, their doubles being compared as numbers: a NaN equals nothing
and the two zeros are equal. -/
def same : Reply → Reply → Bool
  | .simple a, .simple b => a = b
  | .error a, .error b => a = b
  | .integer a, .integer b => a = b
  | .bulk a, .bulk b => a = b
  | .null, .null => true
  | .array a, .array b => sameItems a b
  | .boolean a, .boolean b => a = b
  | .double a, .double b => a.same b
  | .bigNumber a, .bigNumber b => a = b
  | .bulkError a, .bulkError b => a = b
  | .verbatim f a, .verbatim g b => f = g && a = b
  | .map a, .map b => sameEntries a b
  | .set a, .set b => sameItems a b
  | .push a, .push b => sameItems a b
  | _, _ => false

def sameItems : List Reply → List Reply → Bool
  | [], [] => true
  | a :: as, b :: bs => same a b && sameItems as bs
  | _, _ => false

def sameEntries : List (Reply × Reply) → List (Reply × Reply) → Bool
  | [], [] => true
  | (k, v) :: as, (l, w) :: bs => same k l && same v w && sameEntries as bs
  | _, _ => false

end

end Reply

end ClusterBatch
