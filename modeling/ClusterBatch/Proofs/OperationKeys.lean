import ClusterBatch.Batch.Basic

/-!
# Keys of operations

An operation is given its keys as such. Of the command that it is sent as, the keys are found again
by the name. Whatever the arguments are, both agree, also if the same command is given by hand.

Main statement: `Batch.add_keys`.
-/

namespace ClusterBatch

namespace Operation

/-- The keys that an operation is given. A command that is given by hand or was made before does not
say which of its arguments are keys. -/
def keys? : Operation → Option (List Argument)
  | .custom _ | .ready _ => none
  | .info | .infoSections _ | .ping | .dbsize | .configGet _ | .configSet _ _ | .flushdb => some []
  | .mget keys | .del keys | .anyExist keys => some keys
  | .mset pairs => some (pairs.map Prod.fst)
  | .set key _ | .setWith key _ _ | .get key | .getdel key | .incr key | .incrby key _ | .decr key
  | .append key _ | .strlen key | .lpush key _ | .rpush key _ | .lpop key | .rpop key
  | .lrange key _ _ | .llen key | .lindex key _ | .sadd key _ | .srem key _ | .smembers key
  | .scard key | .sismember key _ | .zadd key _ | .zrem key _ | .zrange key _ _
  | .zrangeWithScores key _ _ | .zscore key _ | .zcard key | .zincrby key _ _ | .hset key _
  | .hget key _ | .hdel key _ | .hgetall key | .expire key _ | .ttl key => some [key]

def scores : Operation → List Double
  | .zadd _ members => members.map Prod.fst
  | .zincrby _ increment _ => [increment]
  | _ => []

end Operation

namespace Command

open Argument Operation

/-- The commands of operations, with the keys that they are given. -/
inductive Shows : Command → List Argument → Prop
  | keyless {name : String} {arguments : List Argument} (h : HasLayout name .keyless) :
    Shows ⟨name, arguments⟩ []
  | all {name : String} {keys : List Argument} (h : HasLayout name .all) : Shows ⟨name, keys⟩ keys
  | paired {name : String} {pairs : List (Argument × Argument)}
    (h : HasLayout name .alternating) : Shows ⟨name, flatten pairs⟩ (pairs.map Prod.fst)
  | first {name : String} {key : Argument} {rest : List Argument}
    (h : HasLayout name (.leading 1)) : Shows ⟨name, key :: rest⟩ [key]

variable {command : Command} {keys : List Argument}

theorem alternate_flatten (pairs : List (Argument × Argument)) :
    alternate (flatten pairs) = pairs.map Prod.fst := by
  induction pairs with
  | nil => rfl
  | cons pair pairs ih => exact congrArg (pair.1 :: ·) ih

theorem Shows.keys_eq (h : Shows command keys) : command.keys = keys.map content := by
  cases h with
  | keyless h | all h | first h => exact keys_of_hasLayout h _
  | @paired _ pairs h => rw [keys_of_hasLayout h, KeyLayout.select, alternate_flatten]

theorem Shows.name_ne (h : Shows command keys) : command.name ≠ "" := by
  cases h with
  | keyless h | all h | paired h | first h => exact h.1

/-- A command that is given by hand is made again, whatever the case of its name. -/
theorem ofArguments_of_isWord {word : Argument} (hname : command.name ≠ "")
    (hword : isWord command.name word) :
    ofArguments (word :: command.arguments) = .ok command := by
  obtain ⟨text, htext, hcapitals⟩ := isWord_iff.1 hword
  have hne : text.isEmpty = false := by
    rw [String.isEmpty_eq_false_iff]
    rintro rfl
    exact hname hcapitals.symm
  simp only [ofArguments, htext, hne, make, hcapitals]
  rfl

end Command

namespace Operation

open Argument Command

variable {operation : Operation} {keys : List Argument} {members : List (Double × Argument)}

/-! ## Scores -/

theorem exists_ofDouble_number (negative : Bool) (m : Fin 0x7ff0000000000001) :
    ∃ argument, ofDouble (.number negative m) = .ok argument := by
  unfold ofDouble Double.argumentText?
  dsimp only
  by_cases hinfinite : m = Double.infinite
  · rw [if_pos hinfinite]
    exact ⟨_, rfl⟩
  · rw [if_neg hinfinite]
    exact ⟨_, rfl⟩

theorem scored_cons (score : Double) (member : Argument) (members : List (Double × Argument)) :
    scored ((score, member) :: members) =
      ofDouble score >>= fun argument => ([argument, member] ++ ·) <$> scored members := by
  simp only [scored, List.mapM_cons, bind_assoc, pure_bind, map_bind, map_pure]
  rfl

theorem scored_of_nan (h : .nan ∈ members.map Prod.fst) : scored members = .error .notANumber := by
  induction members with
  | nil => cases h
  | cons pair members ih =>
    obtain ⟨score, member⟩ := pair
    cases score with
    | nan => rw [scored_cons]; rfl
    | number negative m =>
      obtain ⟨argument, hwritten⟩ := exists_ofDouble_number negative m
      have hrest : .nan ∈ members.map Prod.fst := by simpa using h
      rw [scored_cons, hwritten, ih hrest]
      rfl

theorem exists_scored (h : .nan ∉ members.map Prod.fst) :
    ∃ arguments, scored members = .ok arguments := by
  induction members with
  | nil => exact ⟨[], rfl⟩
  | cons pair members ih =>
    obtain ⟨score, member⟩ := pair
    cases score with
    | nan => exact absurd List.mem_cons_self h
    | number negative m =>
      obtain ⟨argument, hwritten⟩ := exists_ofDouble_number negative m
      obtain ⟨rest, hrest⟩ := ih fun hmem => h (List.mem_cons_of_mem _ hmem)
      exact ⟨[argument, member] ++ rest, by rw [scored_cons, hwritten, hrest]; rfl⟩

/-! ## Commands -/

theorem command_of_nan (h : .nan ∈ operation.scores) :
    operation.command = .error .notANumber := by
  cases operation with
  | zadd key members => exact congrArg (· >>= _) (scored_of_nan h)
  | zincrby key increment member =>
    obtain rfl := List.mem_singleton.1 h
    rfl
  | _ => cases h

/-- An operation without NaN has a command, and that has the keys that the operation is given. -/
theorem exists_shows (hkeys : operation.keys? = some keys) (h : .nan ∉ operation.scores) :
    ∃ command, operation.command = .ok command ∧ Shows command keys := by
  cases operation with
  | custom | ready => cases hkeys
  | info | infoSections | ping | dbsize | configGet | configSet | flushdb =>
    cases hkeys
    exact ⟨_, rfl, .keyless (by decide)⟩
  | mget | del | anyExist =>
    cases hkeys
    exact ⟨_, rfl, .all (by decide)⟩
  | mset pairs =>
    cases hkeys
    exact ⟨_, rfl, .paired (by decide)⟩
  | zadd key members =>
    cases hkeys
    obtain ⟨arguments, hscored⟩ := exists_scored h
    exact ⟨.make "ZADD" (key :: arguments), congrArg (· >>= _) hscored, .first (by decide)⟩
  | zincrby key increment member =>
    cases hkeys
    cases increment with
    | nan => exact absurd List.mem_cons_self h
    | number negative m =>
      obtain ⟨argument, hwritten⟩ := exists_ofDouble_number negative m
      exact ⟨.make "ZINCRBY" [key, argument, member], congrArg (· >>= _) hwritten,
        .first (by decide)⟩
  | _ =>
    cases hkeys
    exact ⟨_, rfl, .first (by decide)⟩

end Operation

namespace Batch

open Argument Command

/-- An operation that is given its keys by role is rejected exactly if one of its scores is NaN.
Otherwise it adds a command that has these keys, in order. The same command is added by hand, with
its name in any case and the same arguments. -/
theorem add_keys {operation : Operation} {keys : List Argument} (batch : Batch)
    (hkeys : operation.keys? = some keys) :
    (.nan ∈ operation.scores ∧ batch.add operation = .error .notANumber) ∨
      .nan ∉ operation.scores ∧ ∃ command, batch.add operation = .ok (batch.push command) ∧
        command.keys = keys.map content ∧ ∀ name, isWord command.name name →
          batch.add (.custom (name :: command.arguments)) = .ok (batch.push command) := by
  by_cases hnan : .nan ∈ operation.scores
  · refine .inl ⟨hnan, ?_⟩
    rw [add, Operation.command_of_nan hnan]
    rfl
  · obtain ⟨command, hcommand, hshows⟩ := Operation.exists_shows hkeys hnan
    refine .inr ⟨hnan, command, ?_, hshows.keys_eq, fun name hword => ?_⟩
    · rw [add, hcommand]
      rfl
    · rw [add, Operation.command, ofArguments_of_isWord hshows.name_ne hword]
      rfl

/-- Keys that are no text or are words of options, values that are words as well. -/
theorem add_keys_mset :
    let keys : List Argument := [.octets [255], .text "COUNT"]
    let operation : Operation := .mset [(.octets [255], .text "GET"), (.text "COUNT", .octets [])]
    operation.keys? = some keys ∧ ∃ command, add {} operation = .ok (push {} command) ∧
      command.keys = [[255], Bytes.ofAscii "COUNT"] ∧
        add {} (.custom (.octets [109, 83, 101, 116] :: command.arguments)) =
          .ok (push {} command) := by
  intro keys operation
  have hkeys : operation.keys? = some keys := rfl
  rcases add_keys {} hkeys with ⟨hnan, -⟩ | ⟨-, command, hadd, hfound, hcustom⟩
  · cases hnan
  · refine ⟨hkeys, command, hadd, hfound.trans (by decide), hcustom _ ?_⟩
    cases hadd
    decide

end Batch

end ClusterBatch
