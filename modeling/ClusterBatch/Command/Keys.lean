import ClusterBatch.Command.Basic

/-!
# Keys of commands

Which arguments of a command are keys depends on the command's name. The layouts are few: the
first argument, all of them, every other one, as many as a count says, and so on. A command that
is in none of the tables has its key first.

The first key decides where a command goes, and whether it only reads decides whether a replica
may serve it.

Main statement: `Command.keys_of_hasLayout`, the keys of a command whose name tells where they are.
-/

namespace ClusterBatch

/-- Where the keys of a command are among its arguments. -/
inductive KeyLayout where
  /-- The command has no keys. -/
  | keyless
  /-- The first arguments, as many as told. -/
  | leading (count : Nat)
  | all
  /-- All but the first, which says what to do. -/
  | allButFirst
  /-- All but the last, which is a time limit. -/
  | allButLast
  /-- Every other argument from the first on; the others are values. -/
  | alternating
  /-- A count at position `index`, with as many keys behind it as it says; the first `leading`
  arguments are keys too. -/
  | counted (index : Nat) (leading : Nat)
  /-- The argument behind a subcommand. -/
  | afterSubcommand
  /-- The first half of the arguments behind the word `STREAMS`; the second half are positions. -/
  | streams
  deriving DecidableEq, Repr

namespace Command

def keylessNames : List String :=
  ["INFO", "PING", "ECHO", "DBSIZE", "CONFIG", "FLUSHDB", "FLUSHALL", "TIME", "CLIENT", "CLUSTER",
    "COMMAND", "RANDOMKEY", "LASTSAVE", "SAVE", "BGSAVE", "BGREWRITEAOF", "SLOWLOG", "MULTI",
    "EXEC", "DISCARD", "SCRIPT", "FUNCTION", "WAIT", "SELECT", "ASKING", "READONLY", "READWRITE",
    "LATENCY", "MODULE", "ACL", "LOLWUT", "HELLO", "AUTH", "QUIT", "RESET", "SWAPDB", "UNWATCH"]

def twoKeyNames : List String :=
  ["RENAME", "RENAMENX", "RPOPLPUSH", "BRPOPLPUSH", "LMOVE", "BLMOVE", "SMOVE", "COPY",
    "GEOSEARCHSTORE", "ZRANGESTORE"]

def allKeyNames : List String :=
  ["MGET", "DEL", "EXISTS", "UNLINK", "TOUCH", "WATCH", "SINTER", "SUNION", "SDIFF",
    "SINTERSTORE", "SUNIONSTORE", "SDIFFSTORE", "PFCOUNT", "PFMERGE"]

def waitingNames : List String := ["BLPOP", "BRPOP", "BZPOPMIN", "BZPOPMAX"]

def alternatingNames : List String := ["MSET", "MSETNX"]

/-- The commands with a count of keys behind one argument that is none. -/
def secondCountNames : List String :=
  ["EVAL", "EVALSHA", "EVAL_RO", "EVALSHA_RO", "FCALL", "FCALL_RO", "BLMPOP", "BZMPOP"]

def storingCountNames : List String := ["ZUNIONSTORE", "ZINTERSTORE", "ZDIFFSTORE"]

def firstCountNames : List String :=
  ["ZUNION", "ZINTER", "ZDIFF", "ZINTERCARD", "SINTERCARD", "LMPOP", "ZMPOP"]

def subcommandNames : List String := ["OBJECT", "XINFO", "XGROUP"]

def streamNames : List String := ["XREAD", "XREADGROUP"]

/-- Whether an argument is the given word, which is in capitals, in any case. -/
def isWord (word : String) (argument : Argument) : Bool :=
  match argument.text? with
  | some text => capitals text = word
  | none => false

theorem isWord_iff {word : String} {argument : Argument} :
    isWord word argument = true ↔ ∃ text, argument.text? = some text ∧ capitals text = word := by
  unfold isWord
  cases argument.text? <;> simp

def keyLayout (command : Command) : KeyLayout :=
  if command.name ∈ keylessNames then .keyless
  else if command.name ∈ twoKeyNames then .leading 2
  else if command.name ∈ allKeyNames then .all
  else if command.name = "BITOP" then .allButFirst
  else if command.name ∈ waitingNames then .allButLast
  else if command.name ∈ alternatingNames then .alternating
  else if command.name ∈ secondCountNames then .counted 1 0
  else if command.name ∈ storingCountNames then .counted 1 1
  else if command.name ∈ firstCountNames then .counted 0 0
  else if command.name ∈ subcommandNames then .afterSubcommand
  else if command.name = "MEMORY" then
    if command.arguments.head?.any (isWord "USAGE") then .afterSubcommand else .keyless
  else if command.name ∈ streamNames then .streams
  else .leading 1

/-- Every other member of a list, from the first on. -/
def alternate {α : Type} : List α → List α
  | [] => []
  | [a] => [a]
  | a :: _ :: rest => a :: alternate rest

/-- The count that an argument is the numeral of; none counts as zero. -/
def countOf (argument : Option Argument) : Nat :=
  ((argument.bind Argument.text?).bind fun text => Numeral.below? UInt64.size text.toList).getD 0

def KeyLayout.select (arguments : List Argument) : KeyLayout → List Argument
  | .keyless => []
  | .leading count => arguments.take count
  | .all => arguments
  | .allButFirst => arguments.drop 1
  | .allButLast => arguments.take (arguments.length - 1)
  | .alternating => alternate arguments
  | .counted index leading =>
    arguments.take (min leading index)
      ++ (arguments.drop (index + 1)).take (countOf arguments[index]?)
  | .afterSubcommand => (arguments.drop 1).take 1
  | .streams =>
    let rest := (arguments.dropWhile (!isWord "STREAMS" ·)).drop 1
    rest.take (rest.length / 2)

def keys (command : Command) : List Bytes :=
  (KeyLayout.select command.arguments command.keyLayout).map Argument.content

/-- Whether a name that commands can have tells by itself where their keys are. -/
def HasLayout (name : String) (layout : KeyLayout) : Prop :=
  name ≠ "" ∧ name ≠ "MEMORY" ∧ keyLayout ⟨name, []⟩ = layout

instance (name : String) (layout : KeyLayout) : Decidable (HasLayout name layout) :=
  inferInstanceAs (Decidable (_ ∧ _ ∧ _))

theorem keys_of_hasLayout {name : String} {layout : KeyLayout} (h : HasLayout name layout)
    (arguments : List Argument) :
    keys ⟨name, arguments⟩ = (KeyLayout.select arguments layout).map Argument.content := by
  obtain ⟨-, hmemory, hlayout⟩ := h
  have hname : keyLayout ⟨name, arguments⟩ = keyLayout ⟨name, []⟩ := by
    simp only [keyLayout, if_neg hmemory]
  rw [keys, hname, hlayout]

def firstKey? (command : Command) : Option Bytes := command.keys.head?

def readingNames : List String :=
  ["GET", "MGET", "STRLEN", "GETRANGE", "EXISTS", "TYPE", "TTL", "PTTL", "HGET", "HMGET",
    "HGETALL", "HKEYS", "HVALS", "HLEN", "HEXISTS", "LRANGE", "LLEN", "LINDEX", "LPOS", "SMEMBERS",
    "SCARD", "SISMEMBER", "SMISMEMBER", "SRANDMEMBER", "SINTER", "SUNION", "SDIFF", "ZRANGE",
    "ZRANGEBYSCORE", "ZREVRANGE", "ZCARD", "ZSCORE", "ZMSCORE", "ZCOUNT", "ZRANK", "ZREVRANK",
    "BITCOUNT", "GETBIT", "PFCOUNT", "EVAL_RO", "EVALSHA_RO", "FCALL_RO"]

/-- Whether a command never writes, so that a replica may serve it. -/
def isReadOnly (command : Command) : Bool := command.name ∈ readingNames

end Command

end ClusterBatch
