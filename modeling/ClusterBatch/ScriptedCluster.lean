import ClusterBatch.Reply.Decode
import ClusterBatch.Reply.Encode
import ClusterBatch.Session

/-!
# Scripted clusters

A scripted cluster is a network for trying clients out. Each of its nodes follows a script, which
says for the next frames what is answered and when; once the script is over, the node answers by
itself. Rules then say what is answered to certain requests. All other requests are echoed: the
answer consists of the node's own address and the arguments of the request. Transactions are kept
to as far as echoes go.
-/

namespace ClusterBatch

inductive Response where
  | reply (data : Bytes)
  | failure (cause : ConnectionError)
  /-- It answers by itself. -/
  | automatic

/-- What a node does with a frame, and how many milliseconds later that arrives. -/
structure Act where
  response : Response := .automatic
  delay : Nat := 0

/-- What a node answers to certain requests. -/
structure Rule where
  /-- How many times more the rule applies; without a number, any number of times. -/
  times : Option Nat := none
  /-- The name of the requests that it applies to; without one, all requests. -/
  name : Option Bytes := none
  /-- The rule applies to requests with this among the arguments behind the name. -/
  argument : Option Bytes := none
  reply : Bytes
  deriving DecidableEq, Repr

namespace Rule

def appliesTo (request : Request) (rule : Rule) : Bool :=
  rule.times != some 0
    && rule.name.all (fun name => request.head? == some name)
    && rule.argument.all (fun argument => request.tail.contains argument)

def applied (rule : Rule) : Rule := { rule with times := rule.times.map (· - 1) }

/-- The answer of the first rule that applies to a request, and the rules after that. -/
def useFirst? (request : Request) : List Rule → Option (Bytes × List Rule)
  | [] => none
  | rule :: rest =>
    if rule.appliesTo request then some (rule.reply, rule.applied :: rest)
    else (useFirst? request rest).map fun (reply, rest) => (reply, rule :: rest)

end Rule

structure ScriptedNode where
  address : NodeAddress
  script : List Act := []
  rules : List Rule := []
  /-- The answer to the question which node serves which slots; without one, an error. -/
  slots : Option Reply := none

structure OpenTransaction where
  /-- The echoes of the queued requests, if a transaction is open. -/
  queue : Option (List Reply) := none
  /-- Whether a request of the transaction was refused. -/
  dirty : Bool := false

namespace ScriptedNode

def bulk (text : String) : Reply := .bulk (Utf8.encode text)

def error (text : String) : Reply := .error (Utf8.encode text)

def echo (node : ScriptedNode) (request : Request) : Reply :=
  .array (bulk node.address.text :: request.map .bulk)

def execAnswer (transaction : OpenTransaction) : Reply :=
  match transaction.queue with
  | none => error "ERR EXEC without MULTI"
  | some queue =>
    if transaction.dirty then
      error "EXECABORT Transaction discarded because of previous errors."
    else .array queue

/-- The answer to a request that no rule applies to. -/
def answerPlain (node : ScriptedNode) (transaction : OpenTransaction) (request : Request) :
    Reply × OpenTransaction :=
  let name := request.headD []
  if name = Bytes.ofAscii "ASKING" then (.ok, transaction)
  else if name = Bytes.ofAscii "MULTI" then (.ok, { queue := some [] })
  else if name = Bytes.ofAscii "EXEC" then
    (execAnswer transaction, { transaction with queue := none })
  else if name = Bytes.ofAscii "CLUSTER" then
    (node.slots.getD (error "ERR This instance has cluster support disabled"), transaction)
  else
    match transaction.queue with
    | none => (node.echo request, transaction)
    | some queue =>
      (.simple (Bytes.ofAscii "QUEUED"),
        { transaction with queue := some (queue ++ [node.echo request]) })

def isErrorAnswer (answer : Bytes) : Bool := answer.head? = some (Bytes.ofChar '-')

def answerAll (node : ScriptedNode) (transaction : OpenTransaction) :
    List Request → Bytes × ScriptedNode
  | [] => ([], node)
  | request :: rest =>
    match Rule.useFirst? request node.rules with
    | some (answer, rules) =>
      let transaction :=
        if isErrorAnswer answer then { transaction with dirty := true } else transaction
      let (answers, node) := answerAll { node with rules := rules } transaction rest
      (answer ++ answers, node)
    | none =>
      let (answer, transaction) := node.answerPlain transaction request
      let (answers, node) := answerAll node transaction rest
      (answer.encode ++ answers, node)

/-- The arguments of the request that a reply has the form of. -/
def requestOf (reply : Reply) : Request :=
  (reply.items?.getD []).map fun argument => argument.payload?.getD []

def requestsIn (frame : Bytes) : List Request := (Reply.decodeAll {} frame).1.map requestOf

def receive (frame : Bytes) (node : ScriptedNode) : Arrival × ScriptedNode :=
  let act := node.script.headD {}
  let node := { node with script := node.script.tail }
  match act.response with
  | .reply data => (⟨act.delay, .ok data⟩, node)
  | .failure cause => (⟨act.delay, .error cause⟩, node)
  | .automatic =>
    let (answers, node) := node.answerAll {} (requestsIn frame)
    (⟨act.delay, .ok answers⟩, node)

end ScriptedNode

structure ScriptedCluster where
  nodes : List ScriptedNode := []

namespace ScriptedCluster

/-- How a frame fails that is sent where no node is. -/
def nobody (node : NodeAddress) : ConnectionError :=
  ⟨.refused, "nothing listens on " ++ node.text⟩

/-- What the node with the given address does with a frame, and the nodes after that. -/
def deliver (address : NodeAddress) (frame : Bytes) :
    List ScriptedNode → Arrival × List ScriptedNode
  | [] => (⟨0, .error (nobody address)⟩, [])
  | node :: rest =>
    if node.address = address then
      let (arrival, node) := node.receive frame
      (arrival, node :: rest)
    else
      let (arrival, rest) := deliver address frame rest
      (arrival, node :: rest)

instance : Network ScriptedCluster where
  send sending cluster :=
    let (arrival, nodes) := deliver sending.node sending.frame cluster.nodes
    (arrival, ⟨nodes⟩)

/-- A node with more of a script and more rules, which follow the old ones unless those are to be
dropped. Slots that are not given stay as they are. -/
def extend (clear : Bool) (addition node : ScriptedNode) : ScriptedNode where
  address := node.address
  script := (if clear then [] else node.script) ++ addition.script
  rules := (if clear then [] else node.rules) ++ addition.rules
  slots := addition.slots.or node.slots

/-- Nodes with one more, or with an addition to the one that is there. -/
def addTo (clear : Bool) (addition : ScriptedNode) : List ScriptedNode → List ScriptedNode
  | [] => [addition]
  | node :: rest =>
    if node.address = addition.address then extend clear addition node :: rest
    else node :: addTo clear addition rest

def add (clear : Bool) (addition : ScriptedNode) (cluster : ScriptedCluster) : ScriptedCluster :=
  ⟨addTo clear addition cluster.nodes⟩

end ScriptedCluster

end ClusterBatch
