import ClusterBatch.Exchange
import ClusterBatch.Proofs.FrameEnds

/-!
# What comes in for a frame

As many replies as are expected are read off the front of what came in. That succeeds exactly if it
begins with as many frames. Otherwise what follows the frames that are there decides: if it is not
complete, the connection was closed too early, and if it is no frame, the answer makes no sense.

Main statement: `readReplies_splits`.
-/

namespace ClusterBatch

variable {total left count : Nat} {data rest : Bytes} {replies : List Reply}

/-- Frames at the front are read, then it goes on with what follows them. -/
theorem readRemaining_of_beginsWith (h : Reply.BeginsWith data replies rest) :
    readRemaining total (replies.length + left) data =
      (readRemaining total left rest).map (replies ++ ·) := by
  induction replies generalizing data with
  | nil =>
    obtain rfl := Reply.beginsWith_nil_iff.1 h
    cases hread : readRemaining total left data <;> simp [hread, Except.map]
  | cons reply replies ih =>
    obtain ⟨middle, hdecode, hrest⟩ := Reply.beginsWith_cons_iff.1 h
    rw [List.length_cons, Nat.add_right_comm, readRemaining, hdecode]
    simp only [ih hrest]
    cases readRemaining total left rest <;> rfl

theorem readReplies_of_beginsWith (h : Reply.BeginsWith data replies rest) :
    readReplies replies.length data = .ok replies := by
  have hread : readRemaining replies.length (replies.length + 0) data = _ :=
    readRemaining_of_beginsWith h
  simpa [readReplies, readRemaining, Except.map] using hread

theorem readReplies_of_stop {cause : DecodeError} (hlt : replies.length < count)
    (h : Reply.BeginsWith data replies rest) (hstop : Reply.decode {} rest = .error cause) :
    readReplies count data = .error (if cause = .incomplete
      then .connection (.cutShort replies.length count) else .undecodable cause) := by
  obtain ⟨left, rfl⟩ : ∃ left, count = replies.length + (left + 1) :=
    ⟨count - replies.length - 1, by omega⟩
  rw [readReplies, readRemaining_of_beginsWith h, readRemaining, hstop, Nat.add_sub_cancel]
  cases cause <;> rfl

theorem readReplies_eq_ok_iff :
    readReplies count data = .ok replies ↔
      replies.length = count ∧ ∃ rest, Reply.BeginsWith data replies rest := by
  constructor
  · intro h
    obtain ⟨found, rest, rfl, hbegins⟩ | ⟨_, _, _, hlt, hbegins, hstop⟩ :=
      Reply.exists_beginsWith count data
    · cases h.symm.trans (readReplies_of_beginsWith hbegins)
      exact ⟨rfl, rest, hbegins⟩
    · cases h.symm.trans (readReplies_of_stop hlt hbegins hstop)
  · rintro ⟨rfl, _, hbegins⟩
    exact readReplies_of_beginsWith hbegins

theorem readReplies_eq_error_iff {fault : ExchangeError} :
    readReplies count data = .error fault ↔ ∃ received rest cause, received.length < count ∧
      Reply.BeginsWith data received rest ∧ Reply.decode {} rest = .error cause ∧
        fault = if cause = .incomplete
          then .connection (.cutShort received.length count) else .undecodable cause := by
  constructor
  · intro h
    obtain ⟨_, _, rfl, hbegins⟩ | ⟨received, rest, cause, hlt, hbegins, hstop⟩ :=
      Reply.exists_beginsWith count data
    · cases h.symm.trans (readReplies_of_beginsWith hbegins)
    · cases h.symm.trans (readReplies_of_stop hlt hbegins hstop)
      exact ⟨received, rest, cause, hlt, hbegins, hstop, rfl⟩
  · rintro ⟨received, rest, cause, hlt, hbegins, hstop, rfl⟩
    exact readReplies_of_stop hlt hbegins hstop

/-- Octets that lack the end of all frames count as a connection that was closed too early. -/
theorem readReplies_of_cut {frames : List Bytes}
    (hframes : List.Forall₂ Reply.IsFrame frames replies) (hpart : data <+: frames.flatten)
    (hne : data ≠ frames.flatten) : ∃ received < frames.length,
      readReplies frames.length data = .error (.connection (.cutShort received frames.length)) := by
  obtain ⟨received, rest, hlt, hbegins, hstop⟩ := Reply.beginsWith_of_cut hframes hpart hne
  exact ⟨received.length, hlt, readReplies_of_stop hlt hbegins hstop⟩

/-- What is wrong with octets, as the caller of an exchange gets it. -/
theorem ofExchange_stop_eq_iff {node : NodeAddress} {cause : DecodeError} {received : Nat}
    {e : Error} :
    Error.ofExchange node (if cause = .incomplete
        then .connection (.cutShort received count) else .undecodable cause) = e ↔
      (cause = .incomplete → e = .connection node
        ⟨.closed, s!"connection closed after {received} of {count} replies"⟩) ∧
      (cause ≠ .incomplete → e = .protocol (.undecodable cause)) := by
  by_cases hcause : cause = .incomplete
  · rw [if_pos hcause]
    exact ⟨fun h => ⟨fun _ => h.symm, (absurd hcause ·)⟩, fun h => (h.1 hcause).symm⟩
  · rw [if_neg hcause]
    exact ⟨fun h => ⟨(absurd · hcause), fun _ => h.symm⟩, fun h => (h.2 hcause).symm⟩

/-- What the octets that came in from a node bring: the replies in as many frames as are expected,
if they begin with these, whatever follows. Otherwise the connection counts as closed after the
frames that are there if what follows them is not complete, and is what is wrong with it if that
makes no sense. Whenever the end of all frames is missing, the connection counts as closed. -/
theorem readReplies_splits (node : NodeAddress) (count : Nat) (data : Bytes) :
    let result := (readReplies count data).mapError (Error.ofExchange node)
    (∀ replies, result = .ok replies ↔
        replies.length = count ∧ ∃ rest, Reply.BeginsWith data replies rest) ∧
      (∀ e, result = .error e ↔ ∃ received rest cause, received.length < count ∧
        Reply.BeginsWith data received rest ∧ Reply.decode {} rest = .error cause ∧
          (cause = .incomplete → e = .connection node
            ⟨.closed, s!"connection closed after {received.length} of {count} replies"⟩) ∧
          (cause ≠ .incomplete → e = .protocol (.undecodable cause))) ∧
      ∀ frames replies, List.Forall₂ Reply.IsFrame frames replies → frames.length = count →
        data <+: frames.flatten → data ≠ frames.flatten → ∃ received < count,
          result = .error (.connection node
            ⟨.closed, s!"connection closed after {received} of {count} replies"⟩) := by
  intro result
  refine ⟨fun replies => ?_, fun e => ?_, ?_⟩
  · rw [← readReplies_eq_ok_iff]
    unfold result
    cases readReplies count data <;> simp [Except.mapError]
  · have hresult : result = .error e ↔
        ∃ fault, readReplies count data = .error fault ∧ Error.ofExchange node fault = e := by
      unfold result
      cases readReplies count data <;> simp [Except.mapError]
    simp only [hresult, readReplies_eq_error_iff, ← ofExchange_stop_eq_iff]
    constructor
    · rintro ⟨_, ⟨received, rest, cause, hlt, hbegins, hstop, rfl⟩, he⟩
      exact ⟨received, rest, cause, hlt, hbegins, hstop, he⟩
    · rintro ⟨received, rest, cause, hlt, hbegins, hstop, he⟩
      exact ⟨_, ⟨received, rest, cause, hlt, hbegins, hstop, rfl⟩, he⟩
  · rintro frames replies hframes rfl hpart hne
    obtain ⟨received, hlt, hread⟩ := readReplies_of_cut hframes hpart hne
    refine ⟨received, hlt, ?_⟩
    unfold result
    rw [hread]
    rfl

/-- The second of two replies lacks its last octet. -/
theorem readReplies_splits_cut :
    let node : NodeAddress := ⟨"a", 7000⟩
    let frames : List Bytes := [[43, 97, 13, 10], [58, 49, 13, 10]]
    let data : Bytes := [43, 97, 13, 10, 58, 49, 13]
    List.Forall₂ Reply.IsFrame frames [.simple [97], .integer 1] ∧ frames.length = 2 ∧
      data <+: frames.flatten ∧ data ≠ frames.flatten ∧
      readReplies 2 data = .error (.connection (.cutShort 1 2)) ∧
      ∃ received < 2, (readReplies 2 data).mapError (Error.ofExchange node) =
        .error (.connection node
          ⟨.closed, s!"connection closed after {received} of {2} replies"⟩) := by
  intro node frames data
  have hframes : List.Forall₂ Reply.IsFrame frames [.simple [97], .integer 1] :=
    .cons rfl (.cons rfl .nil)
  have hpart : data <+: frames.flatten := ⟨[10], rfl⟩
  have hne : data ≠ frames.flatten := by decide
  exact ⟨hframes, rfl, hpart, hne, rfl,
    (readReplies_splits node 2 data).2.2 frames _ hframes rfl hpart hne⟩

end ClusterBatch
