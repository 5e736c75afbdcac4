import ClusterBatch.Reply.Basic
import ClusterBatch.Reply.Marker

/-!
# Writing replies

The wire form of a reply: a marker, then a line, a counted payload or a counted sequence of
frames. The null has one written form, which both versions of the wire format accept.
-/

namespace ClusterBatch

namespace Reply

def encodeLine (marker : Marker) (text : Bytes) : Bytes :=
  marker.byte :: text ++ Bytes.crlf

def encodeCount (marker : Marker) (n : Nat) : Bytes :=
  encodeLine marker (Bytes.ofChars (Numeral.ofNat n))

def encodePayload (marker : Marker) (data : Bytes) : Bytes :=
  encodeCount marker data.length ++ data ++ Bytes.crlf

mutual

def encode : Reply → Bytes
  | .simple text => encodeLine .simple text
  | .error line => encodeLine .error line
  | .integer value => encodeLine .integer (Bytes.ofChars (Numeral.ofInt value.toInt))
  | .bulk data => encodePayload .bulk data
  | .null => encodeLine .bulk (Bytes.ofChars ['-', '1'])
  | .array items => encodeCount .array items.length ++ encodeItems items
  | .boolean value => encodeLine .boolean (Bytes.ofChars [if value then 't' else 'f'])
  | .double value => encodeLine .double (Bytes.ofChars value.replyText)
  | .bigNumber text => encodeLine .bigNumber text
  | .bulkError message => encodePayload .bulkError message
  | .verbatim format data =>
    encodePayload .verbatim (format.toList ++ Bytes.ofChar ':' :: data)
  | .map entries => encodeCount .map entries.length ++ encodeEntries entries
  | .set items => encodeCount .set items.length ++ encodeItems items
  | .push items => encodeCount .push items.length ++ encodeItems items

def encodeItems : List Reply → Bytes
  | [] => []
  | item :: items => encode item ++ encodeItems items

def encodeEntries : List (Reply × Reply) → Bytes
  | [] => []
  | (key, value) :: entries => encode key ++ encode value ++ encodeEntries entries

end

end Reply

end ClusterBatch
