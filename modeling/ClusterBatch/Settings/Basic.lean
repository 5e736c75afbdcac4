import ClusterBatch.Backoff
import ClusterBatch.NodeAddress
import ClusterBatch.Text.Quoted

/-!
# Settings

What is fixed about a client when it is made. Times are in milliseconds.
-/

namespace ClusterBatch

/-- Which nodes serve the commands that only read. -/
inductive ReadPolicy where
  | primary
  /-- The replicas of the slot in rotation, or the primary if there are none. -/
  | preferReplica
  /-- A random replica of the slot, or the primary if there are none. -/
  | randomReplica
  deriving DecidableEq, Repr, Inhabited

inductive ProtocolVersion where
  | resp2
  | resp3
  deriving DecidableEq, Repr, Inhabited

structure Credentials where
  username : Option String
  password : String
  deriving DecidableEq, Repr, Inhabited

namespace Credentials

/-- Credentials in diagnostic output, which does not reveal the password. -/
def diagnostic (credentials : Credentials) : String :=
  let username := match credentials.username with
    | some name => "Some(" ++ Text.quote name ++ ")"
    | none => "None"
  "Credentials \x7b username: " ++ username ++ ", password: \"<redacted>\" \x7d"

end Credentials

/-- What is fixed about a client. -/
structure Settings where
  /-- The node of a standalone client, or the nodes that a cluster is discovered from. -/
  addresses : List NodeAddress := []
  clientName : Option String := none
  useTls : Bool := false
  connectionTimeout : UInt64 := 250
  /-- How long to wait for the reply to a frame; without it, forever. -/
  requestTimeout : Option UInt64 := none
  databaseId : Int64 := 0
  backoff : Backoff := {}
  credentials : Option Credentials := none
  protocol : ProtocolVersion := .resp3
  readPolicy : ReadPolicy := .primary
  /-- How often a failed discovery is repeated. -/
  refreshRetries : UInt32 := 2
  /-- How many redirects of one command are followed. -/
  maxRedirects : UInt64 := 5
  deriving DecidableEq, Inhabited

namespace Settings

def ofAddresses (addresses : List NodeAddress) : Settings := { addresses := addresses }

def readingFrom (settings : Settings) (policy : ReadPolicy) : Settings :=
  { settings with readPolicy := policy }

def retrying (settings : Settings) (backoff : Backoff) : Settings :=
  { settings with backoff := backoff }

def answeredWithin (settings : Settings) (limit : UInt64) : Settings :=
  { settings with requestTimeout := some limit }

/-- How many milliseconds a node may take to answer a frame; without a limit, any number. -/
def replyLimit (settings : Settings) : Option Nat := settings.requestTimeout.map UInt64.toNat

end Settings

end ClusterBatch
