import ClusterBatch.Command.Basic

/-!
# Operations

An operation is a command with its arguments by role: keys, values, members, scores, options.
`Operation.command` writes it in the order that nodes expect. A few operations can fail to be
written: a score may be NaN, and a command given by hand may lack a usable name.
-/

namespace ClusterBatch

inductive SetCondition where
  | onlyIfPresent
  | onlyIfAbsent
  deriving DecidableEq, Repr

inductive Expiry where
  | seconds (n : UInt64)
  | milliseconds (n : UInt64)
  /-- As long as the value before it would have stayed. -/
  | keep
  deriving DecidableEq, Repr

structure SetOptions where
  condition : Option SetCondition := none
  /-- Whether the reply is the value before. -/
  returnOld : Bool := false
  expiry : Option Expiry := none
  deriving DecidableEq, Repr

/-- A part of a node's report about itself. -/
inductive InfoSection where
  | server | clients | memory | persistence | stats | replication | cpu | commandstats
  | latencystats | sentinel | cluster | modules | keyspace | errorstats | all | default
  | everything
  deriving DecidableEq, Repr

namespace InfoSection

def word : InfoSection → String
  | server => "server"
  | clients => "clients"
  | memory => "memory"
  | persistence => "persistence"
  | stats => "stats"
  | replication => "replication"
  | cpu => "cpu"
  | commandstats => "commandstats"
  | latencystats => "latencystats"
  | sentinel => "sentinel"
  | cluster => "cluster"
  | modules => "modules"
  | keyspace => "keyspace"
  | errorstats => "errorstats"
  | all => "all"
  | default => "default"
  | everything => "everything"

def list : List InfoSection :=
  [server, clients, memory, persistence, stats, replication, cpu, commandstats, latencystats,
    sentinel, cluster, modules, keyspace, errorstats, all, default, everything]

end InfoSection

/-- A command with its arguments by role. -/
inductive Operation where
  | set (key value : Argument)
  | setWith (key value : Argument) (options : SetOptions)
  | get (key : Argument)
  | getdel (key : Argument)
  | mget (keys : List Argument)
  | mset (pairs : List (Argument × Argument))
  | incr (key : Argument)
  | incrby (key : Argument) (delta : Int64)
  | decr (key : Argument)
  | append (key value : Argument)
  | strlen (key : Argument)
  | lpush (key : Argument) (elements : List Argument)
  | rpush (key : Argument) (elements : List Argument)
  | lpop (key : Argument)
  | rpop (key : Argument)
  | lrange (key : Argument) (start stop : Int64)
  | llen (key : Argument)
  | lindex (key : Argument) (index : Int64)
  | sadd (key : Argument) (members : List Argument)
  | srem (key : Argument) (members : List Argument)
  | smembers (key : Argument)
  | scard (key : Argument)
  | sismember (key member : Argument)
  | zadd (key : Argument) (members : List (Double × Argument))
  | zrem (key : Argument) (members : List Argument)
  | zrange (key : Argument) (start stop : Int64)
  | zrangeWithScores (key : Argument) (start stop : Int64)
  | zscore (key member : Argument)
  | zcard (key : Argument)
  | zincrby (key : Argument) (increment : Double) (member : Argument)
  | hset (key : Argument) (fields : List (Argument × Argument))
  | hget (key field : Argument)
  | hdel (key : Argument) (fields : List Argument)
  | hgetall (key : Argument)
  | del (keys : List Argument)
  | anyExist (keys : List Argument)
  | expire (key : Argument) (seconds : UInt64)
  | ttl (key : Argument)
  /-- A command given by hand, its name first. -/
  | custom (parts : List Argument)
  | info
  | infoSections (sections : List InfoSection)
  | ping
  | dbsize
  | configGet (parameter : Argument)
  | configSet (parameter value : Argument)
  | flushdb
  /-- A command that has been made before. -/
  | ready (command : Command)

namespace Operation

def word (text : String) : Argument := .text text

def signed (n : Int64) : Argument := .ofInt n.toInt

def unsigned (n : UInt64) : Argument := .ofInt n.toNat

def flatten (pairs : List (Argument × Argument)) : List Argument :=
  pairs.flatMap fun (first, second) => [first, second]

/-- Scores and members as arguments; a score that is NaN has none. -/
def scored (members : List (Double × Argument)) : Except EncodingError (List Argument) := do
  let pairs ← members.mapM fun (score, member) => do
    let score ← Argument.ofDouble score
    pure (score, member)
  pure (flatten pairs)

def optionArguments (options : SetOptions) : List Argument :=
  let condition := match options.condition with
    | some .onlyIfPresent => [word "XX"]
    | some .onlyIfAbsent => [word "NX"]
    | none => []
  let returnOld := if options.returnOld then [word "GET"] else []
  let expiry := match options.expiry with
    | some (.seconds n) => [word "EX", unsigned n]
    | some (.milliseconds n) => [word "PX", unsigned n]
    | some .keep => [word "KEEPTTL"]
    | none => []
  condition ++ returnOld ++ expiry

def command : Operation → Except EncodingError Command
  | .set key value => pure (.make "SET" [key, value])
  | .setWith key value options => pure (.make "SET" (key :: value :: optionArguments options))
  | .get key => pure (.make "GET" [key])
  | .getdel key => pure (.make "GETDEL" [key])
  | .mget keys => pure (.make "MGET" keys)
  | .mset pairs => pure (.make "MSET" (flatten pairs))
  | .incr key => pure (.make "INCR" [key])
  | .incrby key delta => pure (.make "INCRBY" [key, signed delta])
  | .decr key => pure (.make "DECR" [key])
  | .append key value => pure (.make "APPEND" [key, value])
  | .strlen key => pure (.make "STRLEN" [key])
  | .lpush key elements => pure (.make "LPUSH" (key :: elements))
  | .rpush key elements => pure (.make "RPUSH" (key :: elements))
  | .lpop key => pure (.make "LPOP" [key])
  | .rpop key => pure (.make "RPOP" [key])
  | .lrange key start stop => pure (.make "LRANGE" [key, signed start, signed stop])
  | .llen key => pure (.make "LLEN" [key])
  | .lindex key index => pure (.make "LINDEX" [key, signed index])
  | .sadd key members => pure (.make "SADD" (key :: members))
  | .srem key members => pure (.make "SREM" (key :: members))
  | .smembers key => pure (.make "SMEMBERS" [key])
  | .scard key => pure (.make "SCARD" [key])
  | .sismember key member => pure (.make "SISMEMBER" [key, member])
  | .zadd key members => do
    let members ← scored members
    pure (.make "ZADD" (key :: members))
  | .zrem key members => pure (.make "ZREM" (key :: members))
  | .zrange key start stop => pure (.make "ZRANGE" [key, signed start, signed stop])
  | .zrangeWithScores key start stop =>
    pure (.make "ZRANGE" [key, signed start, signed stop, word "WITHSCORES"])
  | .zscore key member => pure (.make "ZSCORE" [key, member])
  | .zcard key => pure (.make "ZCARD" [key])
  | .zincrby key increment member => do
    let increment ← Argument.ofDouble increment
    pure (.make "ZINCRBY" [key, increment, member])
  | .hset key fields => pure (.make "HSET" (key :: flatten fields))
  | .hget key field => pure (.make "HGET" [key, field])
  | .hdel key fields => pure (.make "HDEL" (key :: fields))
  | .hgetall key => pure (.make "HGETALL" [key])
  | .del keys => pure (.make "DEL" keys)
  | .anyExist keys => pure (.make "EXISTS" keys)
  | .expire key seconds => pure (.make "EXPIRE" [key, unsigned seconds])
  | .ttl key => pure (.make "TTL" [key])
  | .custom parts => Command.ofArguments parts
  | .info => pure (.make "INFO" [])
  | .infoSections sections => pure (.make "INFO" (sections.map fun s => word s.word))
  | .ping => pure (.make "PING" [])
  | .dbsize => pure (.make "DBSIZE" [])
  | .configGet parameter => pure (.make "CONFIG" [word "GET", parameter])
  | .configSet parameter value => pure (.make "CONFIG" [word "SET", parameter, value])
  | .flushdb => pure (.make "FLUSHDB" [])
  | .ready command => pure command

end Operation

end ClusterBatch
