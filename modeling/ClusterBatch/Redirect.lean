import ClusterBatch.Reply.Basic
import ClusterBatch.Slot.Basic
import ClusterBatch.Text.Blank

/-!
# Redirects

A node that does not serve a key's slot answers with an error that names the node to ask instead.
`MOVED` says that the slot has a new home, `ASK` that it is moving and that only this one command
should try there.
-/

namespace ClusterBatch

inductive RedirectKind where
  /-- The slot lives on another node now. -/
  | moved
  /-- The slot is moving to another node, which answers once it has been told to. -/
  | ask
  deriving DecidableEq, Repr

/-- A node's advice where to send a command. -/
structure Redirect where
  kind : RedirectKind
  slot : Nat
  /-- The text that names the other node. -/
  address : String
  deriving DecidableEq, Repr

namespace RedirectKind

def word : RedirectKind → String
  | moved => "MOVED"
  | ask => "ASK"

def ofWord? (text : List Char) : Option RedirectKind :=
  if text = moved.word.toList then some moved
  else if text = ask.word.toList then some ask
  else none

end RedirectKind

namespace Redirect

/-- The redirect in the words of an error message: its kind, a slot and an address. Further words
are of no concern. -/
def ofWords? : List (List Char) → Option Redirect
  | kind :: slot :: address :: _ => do
    let kind ← RedirectKind.ofWord? kind
    let slot ← Numeral.below? Slot.count slot
    some ⟨kind, slot, String.ofList address⟩
  | _ => none

def ofMessage? (message : Bytes) : Option Redirect := do
  let text ← Utf8.decode? message
  ofWords? (Text.words text.toList)

def ofReply? (reply : Reply) : Option Redirect := reply.errorMessage?.bind ofMessage?

end Redirect

end ClusterBatch
