import ClusterBatch.Reply.Basic
import ClusterBatch.Text.Blank

/-!
# Outcomes

What one command of a batch comes to: the node's reply, or the node's rejection of the command. A
rejection is an error line; its first word, if that is all capitals, is its code.
-/

namespace ClusterBatch

/-- A node's rejection of one command. -/
structure ServerError where
  code : String
  message : String
  deriving DecidableEq, Repr, Inhabited

inductive Outcome where
  | success (reply : Reply)
  | failure (error : ServerError)
  deriving Inhabited

namespace ServerError

/-- Whether a word is a code: one or more ASCII capitals. -/
def isCode (word : List Char) : Bool := !word.isEmpty && word.all Char.isUpper

/-- The rejection that a trimmed text expresses. A text without a code has the code `ERR`. -/
def ofTrimmed (text : List Char) : ServerError :=
  let word := text.takeWhile (· ≠ ' ')
  if isCode word then ⟨String.ofList word, String.ofList (text.drop (word.length + 1))⟩
  else ⟨"ERR", String.ofList text⟩

def ofLine (line : Bytes) : ServerError := ofTrimmed (Text.trim (Utf8.lossyChars line))

def text (e : ServerError) : String :=
  if e.message.isEmpty then e.code else e.code ++ " " ++ e.message

end ServerError

namespace Outcome

/-- The outcome that a reply expresses. -/
def ofReply (reply : Reply) : Outcome :=
  match reply.errorMessage? with
  | some message => .failure (.ofLine message)
  | none => .success reply

end Outcome

end ClusterBatch
