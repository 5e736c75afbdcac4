import ClusterBatch.Argument
import ClusterBatch.Reply.DecodeError
import ClusterBatch.Reply.Diagnostic
import ClusterBatch.Topology.SlotsReply

/-!
# Errors

An error fails a whole call, in contrast to a node's rejection of one command, which is that
command's outcome. Each error is the cause of the failure; its text is made here.
-/

namespace ClusterBatch

inductive ConnectionFault where
  | timeout
  | refused
  | tls
  | closed
  | io
  deriving DecidableEq, Repr

structure ConnectionError where
  fault : ConnectionFault
  message : String
  deriving DecidableEq, Repr

/-- Why a frame did not bring its replies. -/
inductive ExchangeError where
  | connection (cause : ConnectionError)
  | undecodable (cause : DecodeError)
  deriving DecidableEq, Repr

/-- Why a node that was asked for the slots did not provide a topology. -/
inductive QueryFailure where
  | exchange (cause : ExchangeError)
  /-- The node answered with an error. -/
  | rejected (line : Bytes)
  | malformed (fault : SlotsFault)
  /-- The node knows of no slots. -/
  | noRanges
  deriving DecidableEq, Repr

/-- Why there is no topology, or no node in it to send to. -/
inductive DiscoveryError where
  | invalidAddress (cause : AddressError)
  | malformed (fault : SlotsFault)
  /-- There is no node to ask. -/
  | noSeeds
  /-- Every node that was asked failed, in this order. -/
  | noUsableSeed (failures : List (NodeAddress × QueryFailure))
  | noPrimaries
  | noNodes
  /-- The settings name no node. -/
  | noAddress
  /-- A client of a single node has no topology. -/
  | standalone
  deriving DecidableEq, Repr

inductive ProtocolError where
  | undecodable (cause : DecodeError)
  /-- A redirect to something that is not an address. -/
  | unusableRedirect (address : String)
  /-- The reply to the end of a transaction does not fit its commands. -/
  | unexpectedExec (commands : Nat) (reply : Reply)

inductive Error where
  | encoding (cause : EncodingError)
  /-- The keys of a transaction lie on different slots. -/
  | crossSlot (first other : Nat)
  | connection (node : NodeAddress) (cause : ConnectionError)
  | discovery (cause : DiscoveryError)
  /-- No node serves the slot. -/
  | topologyGap (slot : Nat)
  | protocol (cause : ProtocolError)
  /-- A command was redirected more often than allowed. -/
  | tooManyRedirects (slot : Nat)

namespace ConnectionFault

def text : ConnectionFault → String
  | timeout => "timeout"
  | refused => "refused"
  | tls => "tls failure"
  | closed => "closed"
  | io => "io"

end ConnectionFault

namespace ConnectionError

def noReply (limit : Nat) : ConnectionError := ⟨.timeout, s!"no reply within {limit}ms"⟩

/-- What came in ended after some of the replies. -/
def cutShort (received expected : Nat) : ConnectionError :=
  ⟨.closed, s!"connection closed after {received} of {expected} replies"⟩

def text (node : NodeAddress) (e : ConnectionError) : String :=
  "connection error on " ++ node.text ++ ": " ++ e.fault.text ++ ": " ++ e.message

end ConnectionError

/-- Begins the text of every failure to find a topology. -/
def discoveryText (cause : String) : String := "topology discovery failed: " ++ cause

def protocolText (cause : String) : String := "protocol error: " ++ cause

namespace SlotsFault

def text (fault : SlotsFault) : String := "malformed CLUSTER SLOTS reply: " ++ fault.message

end SlotsFault

namespace QueryFailure

def text (node : NodeAddress) : QueryFailure → String
  | exchange (.connection cause) => cause.text node
  | exchange (.undecodable cause) => protocolText cause.message
  | rejected line => discoveryText ("CLUSTER SLOTS rejected: " ++ Utf8.lossy line)
  | malformed fault => discoveryText fault.text
  | noRanges => discoveryText "node reports no slot ranges"

end QueryFailure

namespace DiscoveryError

def text : DiscoveryError → String
  | invalidAddress cause => cause.message
  | malformed fault => fault.text
  | noSeeds => "no seed addresses to query"
  | noUsableSeed failures =>
    let texts := failures.map fun (node, failure) => node.text ++ ": " ++ failure.text node
    "no seed returned a usable topology (" ++ "; ".intercalate texts ++ ")"
  | noPrimaries => "topology has no primaries"
  | noNodes => "topology has no nodes"
  | noAddress => "no address configured"
  | standalone => "standalone client has no cluster topology"

end DiscoveryError

namespace ProtocolError

def text : ProtocolError → String
  | undecodable cause => cause.message
  | unusableRedirect address =>
    protocolText ("redirect to unparseable address `" ++ address ++ "`")
  | unexpectedExec commands reply =>
    protocolText s!"unexpected EXEC reply for {commands} commands: {reply.diagnostic}"

end ProtocolError

namespace Error

def ofExchange (node : NodeAddress) : ExchangeError → Error
  | .connection cause => .connection node cause
  | .undecodable cause => .protocol (.undecodable cause)

def text : Error → String
  | encoding cause => "encoding error: " ++ cause.message
  | crossSlot first other =>
    s!"cross-slot atomic batch: keys hash to slots {first} and {other}"
  | connection node cause => cause.text node
  | discovery cause => discoveryText cause.text
  | topologyGap slot => s!"no node owns slot {slot}"
  | protocol cause => protocolText cause.text
  | tooManyRedirects slot => s!"too many redirects for slot {slot}"

/-- Whether the same call may succeed later: the network or the topology failed it, not the call
itself. -/
def isRetryable : Error → Bool
  | connection _ _ => true
  | discovery _ => true
  | topologyGap _ => true
  | _ => false

end Error

end ClusterBatch
