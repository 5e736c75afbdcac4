import ClusterBatch.Backoff
import ClusterBatch.Directory
import ClusterBatch.Network
import ClusterBatch.Routing

/-!
# Sessions

A session is all that the calls of a client depend on and change: the nodes on the other side, the
time, what has been sent so far, the directory and the router. A call either returns something or
fails with an error; either way the session goes on from where the call left it.
-/

namespace ClusterBatch

/-- What the calls of a client depend on and change. -/
structure Session (σ : Type) where
  nodes : σ
  /-- The time in milliseconds. -/
  time : Nat := 0
  /-- What has been sent, the latest first. -/
  log : List Transmission := []
  directory : Directory := {}
  router : Router
  /-- The draws that shift the waits between attempts. -/
  jitter : Draws := .counting

/-- Something that happens in a session. -/
abbrev Activity (σ : Type) := StateM (Session σ)

/-- Something that happens in a session and may fail. -/
abbrev Call (σ : Type) := ExceptT Error (Activity σ)

namespace Session

variable {σ : Type}

/-- What has been sent and what came back, in the order of the sending. -/
def history (session : Session σ) : List Transmission := session.log.reverse

def sent (session : Session σ) : List Sending := session.history.map Transmission.sending

/-- Sends a parcel. Its arrival within the limit is known at once but lies ahead. -/
def send [Network σ] (limit : Option Nat) (parcel : Parcel) : Activity σ Arrival :=
  modifyGet fun session =>
    let (arrival, nodes) := Network.send ⟨session.time, parcel.node, parcel.frame⟩ session.nodes
    let arrival := arrival.within limit
    let transmission : Transmission := ⟨session.time, parcel, arrival⟩
    (arrival, { session with nodes := nodes, log := transmission :: session.log })

def wait (milliseconds : Nat) : Activity σ Unit :=
  modify fun session => { session with time := session.time + milliseconds }

/-- Draws how long to wait after an attempt, counted from zero, that failed. -/
def drawDelay (backoff : Backoff) (attempt : Nat) : Activity σ Nat :=
  modifyGet fun session =>
    let (delay, jitter) := backoff.delay attempt session.jitter
    (delay, { session with jitter := jitter })

def pause (backoff : Backoff) (attempt : Nat) : Activity σ Unit := do
  wait (← drawDelay backoff attempt)

def publish (topology : Topology) : Activity σ Topology :=
  modifyGet fun session =>
    let directory := session.directory.publish topology
    (directory.current, { session with directory := directory })

def routing {α : Type} (decision : Routing α) : Call σ α := ExceptT.mk <|
  modifyGet fun session =>
    let (result, router) := decision.run.run session.router
    (result, { session with router := router })

end Session

end ClusterBatch
