import ClusterBatch.Command.Basic
import ClusterBatch.Proofs.RoundTrip

/-!
# Requests read back

A request has the wire form of an array of payloads. Requests that are written one behind the other
are therefore read back one by one, each from exactly the octets that were computed for it, whatever
is in them and whatever the buffer held before.

Main statement: `Request.writeTo_lossless`.
-/

namespace ClusterBatch

namespace Reply

/-- Octets that consist of frames. One after the other is read off their front, each with the number
of octets that it takes, until nothing is left. -/
inductive Frames : Bytes → List (Reply × Nat) → Prop
  | nil : Frames [] []
  | cons {data : Bytes} {reply : Reply} {used : Nat} {frames : List (Reply × Nat)}
    (hdecode : decode {} data = .ok (reply, data.drop used)) (hused : used ≤ data.length)
    (hrest : Frames (data.drop used) frames) : Frames data ((reply, used) :: frames)

theorem Frames.decodeAll_eq {data : Bytes} {frames : List (Reply × Nat)} (h : Frames data frames) :
    decodeAll {} data = (frames.map Prod.fst, .incomplete, []) := by
  induction h with
  | nil => rfl
  | cons hdecode _ _ ih => rw [decodeAll_of_ok hdecode, ih, List.map_cons]

/-- Counts and lengths that keep to limits which are signed words are signed words themselves. -/
theorem countable_of_within {limits : Limits} {reply : Reply}
    (helements : limits.elements < 0x8000000000000000)
    (hpayload : limits.payload < 0x8000000000000000) (h : reply.Within limits) :
    reply.Countable := by
  intro part hpart
  obtain ⟨-, hcount, hlength⟩ := h.fits part hpart
  exact ⟨fun count hmem => Nat.lt_of_le_of_lt (hcount count hmem) helements,
    fun length hmem => Nat.lt_of_le_of_lt (hlength length hmem) hpayload⟩

end Reply

namespace Request

/-- A buffer behind whose content a request has been written: its count, then its arguments. -/
def writeTo (buffer : Bytes) (request : Request) : Bytes :=
  request.foldl (fun buffer argument => buffer ++ encodeArgument argument)
    (buffer ++ encodeCount '*' request.length)

def asReply (request : Request) : Reply := .array (request.map .bulk)

structure IsModest (request : Request) : Prop where
  count_le : request.length ≤ 16777216
  argument_le : ∀ argument ∈ request, argument.length ≤ 536870912

variable {buffer : Bytes} {request : Request} {requests : List Request}

/-- What is written behind a buffer is the wire form of the request, and nothing before it is
touched. -/
theorem writeTo_eq (buffer : Bytes) (request : Request) :
    writeTo buffer request = buffer ++ request.encode := by
  rw [writeTo, List.foldl_append_eq_append, ← List.flatMap_def, encode, List.append_assoc]

theorem foldl_writeTo (buffer : Bytes) (requests : List Request) :
    requests.foldl writeTo buffer = buffer ++ requests.flatMap encode := by
  have hwrite : writeTo = fun buffer request => buffer ++ request.encode := by
    funext buffer request
    exact writeTo_eq buffer request
  rw [hwrite, List.foldl_append_eq_append, ← List.flatMap_def]

/-- Requests and replies are written alike. -/
theorem encode_asReply (request : Request) : request.asReply.encode = request.encode := by
  have hargument : Reply.encode ∘ Reply.bulk = encodeArgument := rfl
  rw [asReply, Reply.encode, Reply.encodeItems_eq, List.flatMap_map, List.length_map]
  exact congrArg (_ ++ List.flatMap · request) hargument

theorem withinAt_asReply (h : request.IsModest) : request.asReply.WithinAt {} 0 := by
  refine (Reply.withinAt_items rfl rfl rfl).2 ⟨by decide, ?_, ?_⟩
  · rw [List.length_map]
    exact h.count_le
  · intro item hitem
    obtain ⟨argument, hargument, rfl⟩ := List.mem_map.1 hitem
    exact Reply.withinAt_payload rfl rfl rfl (h.argument_le argument hargument)

/-- A request is read back as what it travels as, whatever follows it. -/
theorem decode_encode_append (h : request.IsModest) (rest : Bytes) :
    Reply.decode {} (request.encode ++ rest) = .ok (request.asReply, rest) := by
  have hwithin := withinAt_asReply h
  have hcountable : request.asReply.Countable :=
    Reply.countable_of_within (by decide) (by decide) (Reply.withinAt_zero.1 hwithin)
  rw [← encode_asReply]
  exact Reply.readsBack {} request.asReply _ 0 rest hcountable hwithin (by simp)

/-- Requests one behind the other are frames, each as long as computed. -/
theorem frames_flatMap_encode (h : ∀ request ∈ requests, request.IsModest) :
    Reply.Frames (requests.flatMap encode)
      (requests.map fun request => (request.asReply, request.encodedLength)) := by
  induction requests with
  | nil => exact .nil
  | cons request rest ih =>
    obtain ⟨hrequest, hrest⟩ := List.forall_mem_cons.1 h
    have hdrop : (request.encode ++ rest.flatMap encode).drop request.encodedLength =
        rest.flatMap encode := by rw [← length_encode, List.drop_left]
    have hframes := ih hrest
    rw [← hdrop] at hframes
    rw [List.flatMap_cons]
    refine .cons ?_ ?_ hframes
    · rw [hdrop]
      exact decode_encode_append hrequest _
    · rw [List.length_append, length_encode]
      exact Nat.le_add_right _ _

/-- Octets are read back as requests: one array of payloads for each, with exactly its arguments,
from as many octets as are computed for it. Nothing is left over. -/
structure ReadBack (written : Bytes) (requests : List Request) : Prop where
  frames : Reply.Frames written
    (requests.map fun request => (.array (request.map .bulk), request.encodedLength))
  replies : Reply.decodeAll {} written =
    (requests.map fun request => .array (request.map .bulk), .incomplete, [])

theorem readBack_flatMap_encode (h : ∀ request ∈ requests, request.IsModest) :
    ReadBack (requests.flatMap encode) requests where
  frames := frames_flatMap_encode h
  replies := by
    rw [(frames_flatMap_encode h).decodeAll_eq, List.map_map]
    rfl

/-- A request that is written behind a buffer leaves what is in it in place and makes it longer by
what is computed for it. Whatever requests are written one behind the other, they are read back. The
same is true of commands, as requests of their name and their arguments. -/
theorem writeTo_lossless :
    (∀ buffer request, buffer <+: writeTo buffer request ∧
      (writeTo buffer request).length = buffer.length + request.encodedLength) ∧
    (∀ (buffer : Bytes) (requests : List Request), (∀ request ∈ requests, request.IsModest) →
      ∃ written, requests.foldl writeTo buffer = buffer ++ written ∧ ReadBack written requests) ∧
    ∀ (buffer : Bytes) (commands : List Command),
      (∀ command ∈ commands, command.request.IsModest) →
        ∃ written, commands.foldl (fun buffer command => buffer ++ command.encode) buffer =
            buffer ++ written ∧
          ReadBack written (commands.map fun command =>
            Utf8.encode command.name :: command.arguments.map Argument.content) := by
  refine ⟨fun buffer request => ⟨?_, ?_⟩, fun buffer requests h => ?_, fun buffer commands h => ?_⟩
  · exact ⟨request.encode, (writeTo_eq buffer request).symm⟩
  · rw [writeTo_eq, List.length_append, length_encode]
  · exact ⟨_, foldl_writeTo buffer requests, readBack_flatMap_encode h⟩
  · have hrequests : ∀ request ∈ commands.map Command.request, request.IsModest := by
      simpa using h
    have hwritten := foldl_writeTo buffer (commands.map Command.request)
    rw [List.foldl_map] at hwritten
    simp only [writeTo_eq] at hwritten
    exact ⟨_, hwritten, readBack_flatMap_encode hrequests⟩

/-- A request without arguments, one with an empty argument and one with marks that end lines,
behind a buffer that ends within a frame; and a command. -/
theorem writeTo_lossless_marks :
    let buffer : Bytes := [42, 49]
    let requests : List Request := [[], [[71], []], [[13, 10, 36]]]
    let command : Command := ⟨"GET", [.octets [13, 0]]⟩
    (∀ request ∈ requests, request.IsModest) ∧ command.request.IsModest ∧
      (∃ written, requests.foldl writeTo buffer = buffer ++ written ∧
        ReadBack written requests) ∧
      ∃ written, buffer ++ command.encode = buffer ++ written ∧
        ReadBack written [[[71, 69, 84], [13, 0]]] := by
  intro buffer requests command
  have hmodest : ∀ request ∈ requests, request.IsModest := by
    simp only [requests, List.forall_mem_cons]
    exact ⟨⟨by decide, by decide⟩, ⟨by decide, by decide⟩, ⟨by decide, by decide⟩, nofun⟩
  have hcommand : command.request.IsModest := ⟨by decide, by decide⟩
  exact ⟨hmodest, hcommand, writeTo_lossless.2.1 buffer requests hmodest,
    writeTo_lossless.2.2 buffer [command] (by simpa using hcommand)⟩

end Request

end ClusterBatch
