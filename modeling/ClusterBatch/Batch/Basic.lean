import ClusterBatch.Batch.Operation
import ClusterBatch.Command.Keys

/-!
# Batches

A batch is a list of commands that are submitted together, in the order they were added. An
atomic batch is applied as one transaction; the commands of any other batch stand alone. An
operation that cannot be written is not added.
-/

namespace ClusterBatch

/-- Commands to submit together. -/
structure Batch where
  /-- Whether the commands are applied as one transaction. -/
  atomic : Bool := false
  commands : List Command := []
  deriving BEq, Inhabited

namespace Batch

def push (batch : Batch) (command : Command) : Batch :=
  { batch with commands := batch.commands ++ [command] }

def add (batch : Batch) (operation : Operation) : Except EncodingError Batch :=
  batch.push <$> operation.command

/-- A batch with those of further operations that can be written. -/
def addAll (batch : Batch) (operations : List Operation) : Batch :=
  operations.foldl (fun batch operation =>
    match batch.add operation with
    | .ok batch => batch
    | .error _ => batch) batch

end Batch

end ClusterBatch
