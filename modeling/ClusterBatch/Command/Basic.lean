import ClusterBatch.Argument
import ClusterBatch.Request

/-!
# Commands

A command has a name in capitals and arguments. Names are compared without regard to the case
they were given in, arguments by what they put on the wire.
-/

namespace ClusterBatch

structure Command where
  name : String
  arguments : List Argument
  deriving Inhabited

namespace Command

/-- A word in ASCII capitals; other characters stay as they are. -/
def capitals (word : String) : String := String.ofList (word.toList.map Char.toUpper)

/-- The command of the given name, in any case, with arguments. -/
def make (name : String) (arguments : List Argument) : Command := ⟨capitals name, arguments⟩

def ofArguments : List Argument → Except EncodingError Command
  | [] => .error .noName
  | name :: arguments =>
    match name.text? with
    | some name => if name.isEmpty then .error .unusableName else .ok (make name arguments)
    | none => .error .unusableName

def request (command : Command) : Request :=
  Utf8.encode command.name :: command.arguments.map Argument.content

def encode (command : Command) : Bytes := command.request.encode

def display (command : Command) : String :=
  " ".intercalate (command.name :: command.arguments.map Argument.display)

/-- What a command feeds a hasher. -/
def fed (command : Command) : List Fed :=
  .text command.name :: .length command.arguments.length :: command.arguments.flatMap Argument.fed

instance : BEq Command where
  beq a b := a.name = b.name && a.arguments == b.arguments

instance : Hashable Command where
  hash a := hash a.fed

end Command

end ClusterBatch
