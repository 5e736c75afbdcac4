import ClusterBatch.Json.Reader
import ClusterBatch.Json.Writer
import ClusterBatch.Settings.Basic

/-!
# Settings as JSON

Settings are written as an object with all fields in a fixed order. They are read from an object
in which any field may be missing and further ones are ignored, or from an array of the first so
many fields. A field that is there must have the right form, and must not be there twice.
-/

namespace ClusterBatch

namespace Json

def text? : Json → Option String
  | .string text => text
  | _ => none

def boolean? : Json → Option Bool
  | .boolean value => some value
  | _ => none

/-- An integer from zero up to below `bound`. -/
def below? (bound : Nat) : Json → Option Nat
  | .integer value => if 0 ≤ value ∧ value < bound then some value.toNat else none
  | _ => none

def int64? : Json → Option Int64
  | .integer value =>
    if Int64.minValue.toInt ≤ value ∧ value ≤ Int64.maxValue.toInt then some (Int64.ofInt value)
    else none
  | _ => none

def uint32? (json : Json) : Option UInt32 := (json.below? UInt32.size).map UInt32.ofNat

def uint64? (json : Json) : Option UInt64 := (json.below? UInt64.size).map UInt64.ofNat

/-- A value that null stands for the absence of. -/
def optional? {α : Type} (read : Json → Option α) : Json → Option (Option α)
  | .null => some none
  | json => (read json).map some

def list? {α : Type} (read : Json → Option α) : Json → Option (List α)
  | .array items => items.mapM read
  | _ => none

/-- One of several words: a string, or an object with the word as its only name and null as its
value. -/
def word? {α : Type} (ofWord : String → Option α) : Json → Option α
  | .string text => text.bind ofWord
  | .object [(name, .null)] => name.bind ofWord
  | _ => none

/-- The value of a field among the members of an object, if it is there; it must not be there
twice. -/
def member? (members : List (Option String × Json)) (name : String) : Option (Option Json) :=
  match members.filter fun member => member.1 = some name with
  | [] => some none
  | [member] => some (some member.2)
  | _ => none

/-- The values of fields, each if it is there: from an object by name, from an array by place. -/
def fields? (names : List String) : Json → Option (List (Option Json))
  | .object members =>
    if members.all fun member => member.1.isSome then names.mapM (member? members) else none
  | .array items =>
    if items.length ≤ names.length then
      some (items.map some ++ List.replicate (names.length - items.length) none)
    else none
  | _ => none

/-- The value of a field, or the default if it is not there. -/
def field? {α : Type} (default : α) (read : Json → Option α) : Option Json → Option α
  | some json => read json
  | none => some default

end Json

namespace NodeAddress

def ofJson? (json : Json) : Option NodeAddress :=
  json.text?.bind fun text => (ofText text).toOption

end NodeAddress

namespace ReadPolicy

def word : ReadPolicy → String
  | primary => "primary"
  | preferReplica => "prefer_replica"
  | randomReplica => "random_replica"

def ofWord? (text : String) : Option ReadPolicy :=
  [primary, preferReplica, randomReplica].find? (·.word = text)

end ReadPolicy

namespace ProtocolVersion

def word : ProtocolVersion → String
  | resp2 => "resp2"
  | resp3 => "resp3"

def ofWord? (text : String) : Option ProtocolVersion := [resp2, resp3].find? (·.word = text)

end ProtocolVersion

namespace Backoff

def fieldNames : List String := ["num_of_retries", "factor", "exponent_base", "jitter_percent"]

def toJson (backoff : Backoff) : Json :=
  .ofMembers (fieldNames.zip
    [.integer backoff.retries.toNat, .integer backoff.factor.toNat,
      .integer backoff.exponentBase.toNat, .integer backoff.jitterPercent.toNat])

def ofJson? (json : Json) : Option Backoff := do
  let standard : Backoff := {}
  match ← json.fields? fieldNames with
  | [retries, factor, exponentBase, jitterPercent] =>
    some {
      retries := ← Json.field? standard.retries Json.uint32? retries
      factor := ← Json.field? standard.factor Json.uint32? factor
      exponentBase := ← Json.field? standard.exponentBase Json.uint32? exponentBase
      jitterPercent := ← Json.field? standard.jitterPercent Json.uint32? jitterPercent }
  | _ => none

end Backoff

namespace Credentials

def fieldNames : List String := ["username", "password"]

def toJson (credentials : Credentials) : Json :=
  .ofMembers (fieldNames.zip
    [.ofOption .ofText credentials.username, .ofText credentials.password])

/-- The credentials that a value describes. The user may be missing from an object, but nothing
from an array. -/
def ofJson? (json : Json) : Option Credentials := do
  match ← json.fields? fieldNames with
  | [username, some password] =>
    some {
      username := ← Json.field? none (Json.optional? Json.text?) username
      password := ← password.text? }
  | _ => none

end Credentials

namespace Settings

def fieldNames : List String :=
  ["addresses", "client_name", "use_tls", "connection_timeout", "request_timeout", "database_id",
    "retry_strategy", "credentials", "protocol", "read_from", "topology_refresh_retries",
    "max_redirects"]

def toJson (settings : Settings) : Json :=
  .ofMembers (fieldNames.zip
    [.array (settings.addresses.map fun address => .ofText address.text),
      .ofOption .ofText settings.clientName,
      .boolean settings.useTls,
      .integer settings.connectionTimeout.toNat,
      .ofOption (fun ms => .integer ms.toNat) settings.requestTimeout,
      .integer settings.databaseId.toInt,
      settings.backoff.toJson,
      .ofOption Credentials.toJson settings.credentials,
      .ofText settings.protocol.word,
      .ofText settings.readPolicy.word,
      .integer settings.refreshRetries.toNat,
      .integer settings.maxRedirects.toNat])

def ofJson? (json : Json) : Option Settings := do
  let standard : Settings := {}
  match ← json.fields? fieldNames with
  | [addresses, clientName, useTls, connectionTimeout, requestTimeout, databaseId, backoff,
      credentials, protocol, readPolicy, refreshRetries, maxRedirects] =>
    some {
      addresses := ← Json.field? standard.addresses (Json.list? NodeAddress.ofJson?) addresses
      clientName := ← Json.field? standard.clientName (Json.optional? Json.text?) clientName
      useTls := ← Json.field? standard.useTls Json.boolean? useTls
      connectionTimeout :=
        ← Json.field? standard.connectionTimeout Json.uint64? connectionTimeout
      requestTimeout :=
        ← Json.field? standard.requestTimeout (Json.optional? Json.uint64?) requestTimeout
      databaseId := ← Json.field? standard.databaseId Json.int64? databaseId
      backoff := ← Json.field? standard.backoff Backoff.ofJson? backoff
      credentials :=
        ← Json.field? standard.credentials (Json.optional? Credentials.ofJson?) credentials
      protocol := ← Json.field? standard.protocol (Json.word? ProtocolVersion.ofWord?) protocol
      readPolicy := ← Json.field? standard.readPolicy (Json.word? ReadPolicy.ofWord?) readPolicy
      refreshRetries := ← Json.field? standard.refreshRetries Json.uint32? refreshRetries
      maxRedirects := ← Json.field? standard.maxRedirects Json.uint64? maxRedirects }
  | _ => none

def ofText? (text : String) : Option Settings := (Json.read? text).bind ofJson?

def text (settings : Settings) : String := String.ofList settings.toJson.write

end Settings

end ClusterBatch
