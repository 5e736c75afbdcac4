import ClusterBatch.Transaction
import Mathlib.Data.List.Forall2

/-!
# What the commands of a transaction come to

A transaction gets one reply to its opening request, one acknowledgement for each command and one
answer to its closing request. An error at the opening is what every command comes to. Otherwise the
answer decides: it holds one reply for each command, or all commands fail, a command that was not
acknowledged for its own reason. Acknowledgements never make a command succeed.

Main statement: `Transaction.outcomes_spread`.
-/

namespace ClusterBatch

def Reply.IsErrorWith (reply : Reply) (line : Bytes) : Prop :=
  reply = .error line ∨ reply = .bulkError line

theorem Reply.errorMessage?_eq_some_iff {reply : Reply} {line : Bytes} :
    reply.errorMessage? = some line ↔ reply.IsErrorWith line := by
  cases reply <;> simp [errorMessage?, IsErrorWith]

theorem Reply.errorMessage?_eq_none_iff {reply : Reply} :
    reply.errorMessage? = none ↔ ∀ line, ¬reply.IsErrorWith line := by
  simp only [← errorMessage?_eq_some_iff, Option.eq_none_iff_forall_ne_some, ne_eq]

theorem Outcome.ofReply_eq_success_iff {item reply : Reply} :
    ofReply item = .success reply ↔ item = reply ∧ ∀ line, ¬reply.IsErrorWith line := by
  rw [← Reply.errorMessage?_eq_none_iff, ofReply]
  cases h : item.errorMessage? with
  | some message =>
    refine ⟨nofun, ?_⟩
    rintro ⟨rfl, hnone⟩
    simp [h] at hnone
  | none =>
    constructor
    · rintro ⟨⟩
      exact ⟨rfl, h⟩
    · rintro ⟨rfl, -⟩
      rfl

namespace Transaction

variable {count : Nat} {opening exec : Reply} {queued : List Reply} {line : Bytes}

/-- A command of a transaction that was rejected on some line fails for its own reason if it was not
acknowledged, and for that of the rejection otherwise. -/
inductive FailsAs (line : Bytes) (own : Reply) : Outcome → Prop
  | itself {reason : Bytes} (hown : own.IsErrorWith reason) :
    FailsAs line own (.failure (.ofLine reason))
  | together (hown : ∀ reason, ¬own.IsErrorWith reason) :
    FailsAs line own (.failure (.ofLine line))

/-- What commands come to of which each was answered as in `queued`, between the reply to the
opening request and the answer to the closing one. -/
inductive Spreads (opening : Reply) (queued : List Reply) (exec : Reply) :
    Except ProtocolError (List Outcome) → Prop
  | refused {line : Bytes} (hopening : opening.IsErrorWith line) :
    Spreads opening queued exec (.ok (List.replicate queued.length (.failure (.ofLine line))))
  | applied {items : List Reply} (hopening : ∀ line, ¬opening.IsErrorWith line)
    (hexec : exec = .array items) (hlength : items.length = queued.length) :
    Spreads opening queued exec (.ok (items.map Outcome.ofReply))
  | discarded (hopening : ∀ line, ¬opening.IsErrorWith line) (hexec : exec = .null) :
    Spreads opening queued exec (.ok (List.replicate queued.length aborted))
  | rejected {line : Bytes} {outcomes : List Outcome}
    (hopening : ∀ line, ¬opening.IsErrorWith line) (hexec : exec.IsErrorWith line)
    (houtcomes : List.Forall₂ (FailsAs line) queued outcomes) :
    Spreads opening queued exec (.ok outcomes)
  | unfit (hopening : ∀ line, ¬opening.IsErrorWith line) (hnull : exec ≠ .null)
    (herror : ∀ line, ¬exec.IsErrorWith line)
    (hitems : ∀ items, exec = .array items → items.length ≠ queued.length) :
    Spreads opening queued exec (.error (.unexpectedExec queued.length exec))

theorem outcomes_of_refused (h : opening.IsErrorWith line) :
    outcomes count (opening :: (queued ++ [exec])) =
      .ok (List.replicate count (.failure (.ofLine line))) := by
  have hmessage := Reply.errorMessage?_eq_some_iff.2 h
  rw [← List.cons_append, outcomes, List.dropLast_concat]
  simp [hmessage]

theorem outcomes_of_opened (h : ∀ line, ¬opening.IsErrorWith line) :
    outcomes count (opening :: (queued ++ [exec])) = closing count queued exec := by
  have hmessage := Reply.errorMessage?_eq_none_iff.2 h
  rw [← List.cons_append, outcomes, List.dropLast_concat, List.getLastD_concat]
  simp [hmessage]

theorem failsAs (line : Bytes) (own : Reply) :
    FailsAs line own (.failure (.ofLine (own.errorMessage?.getD line))) := by
  cases h : own.errorMessage? with
  | some reason => exact .itself (Reply.errorMessage?_eq_some_iff.1 h)
  | none => exact .together (Reply.errorMessage?_eq_none_iff.1 h)

/-- Each command fails by the acknowledgement at its own place. -/
theorem closing_of_error (h : exec.IsErrorWith line) :
    closing queued.length queued exec =
      .ok (queued.map fun own => .failure (.ofLine (own.errorMessage?.getD line))) := by
  have hspread : ((List.range queued.length).map fun i => Outcome.failure
      (.ofLine ((queued[i]?.bind Reply.errorMessage?).getD line))) =
        queued.map fun own => .failure (.ofLine (own.errorMessage?.getD line)) := by
    refine List.ext_getElem (by simp) fun i hi _ => ?_
    have hlt : i < queued.length := by simpa using hi
    simp [List.getElem?_eq_getElem hlt]
  obtain rfl | rfl := h <;> exact congrArg Except.ok hspread

theorem closing_of_unfit (hnull : exec ≠ .null) (herror : ∀ line, ¬exec.IsErrorWith line)
    (hitems : ∀ items, exec = .array items → items.length ≠ count) :
    closing count queued exec = .error (.unexpectedExec count exec) := by
  have hmessage := Reply.errorMessage?_eq_none_iff.2 herror
  unfold closing
  split
  · next items => exact if_neg (hitems items rfl)
  · exact absurd rfl hnull
  · next line h => simp [hmessage] at h
  · rfl

theorem spreads_closing (hopening : ∀ line, ¬opening.IsErrorWith line) :
    Spreads opening queued exec (closing queued.length queued exec) := by
  by_cases herror : ∃ line, exec.IsErrorWith line
  · obtain ⟨line, hline⟩ := herror
    rw [closing_of_error hline]
    refine .rejected hopening hline (List.forall₂_map_right_iff.2 ?_)
    exact List.forall₂_same.2 fun own _ => failsAs line own
  · push Not at herror
    by_cases hnull : exec = .null
    · subst hnull
      exact .discarded hopening rfl
    · by_cases hitems : ∃ items, exec = .array items ∧ items.length = queued.length
      · obtain ⟨items, rfl, hlength⟩ := hitems
        rw [closing, if_pos hlength]
        exact .applied hopening rfl hlength
      · push Not at hitems
        rw [closing_of_unfit hnull herror hitems]
        exact .unfit hopening hnull herror hitems

/-- Every list of replies to a transaction is spread over its commands. -/
theorem spreads_outcomes (opening exec : Reply) (queued : List Reply) :
    Spreads opening queued exec (outcomes queued.length (opening :: (queued ++ [exec]))) := by
  by_cases hopening : ∃ line, opening.IsErrorWith line
  · obtain ⟨line, hline⟩ := hopening
    rw [outcomes_of_refused hline]
    exact .refused hline
  · push Not at hopening
    rw [outcomes_of_opened hopening]
    exact spreads_closing hopening

theorem Spreads.length_eq {results : List Outcome} (h : Spreads opening queued exec (.ok results)) :
    results.length = queued.length := by
  cases h with
  | refused | discarded => exact List.length_replicate
  | applied _ _ hlength => rw [List.length_map, hlength]
  | rejected _ _ houtcomes => exact houtcomes.length_eq.symm

theorem FailsAs.ne_success {own reply : Reply} {outcome : Outcome} (h : FailsAs line own outcome) :
    outcome ≠ .success reply := by
  cases h <;> exact nofun

/-- Only an answer that holds a reply for every command makes a command succeed. -/
theorem Spreads.holds_success {results : List Outcome} {i : Nat} {reply : Reply}
    (h : Spreads opening queued exec (.ok results))
    (hsuccess : results[i]? = some (.success reply)) :
    ∃ items, exec = .array items ∧ items.length = queued.length ∧ items[i]? = some reply ∧
      ∀ line, ¬reply.IsErrorWith line := by
  cases h with
  | refused | discarded =>
    exact nomatch List.eq_of_mem_replicate (List.mem_of_getElem? hsuccess)
  | @applied items _ hexec hlength =>
    rw [List.getElem?_map] at hsuccess
    obtain ⟨item, hitem, houtcome⟩ := Option.map_eq_some_iff.1 hsuccess
    obtain ⟨rfl, hplain⟩ := Outcome.ofReply_eq_success_iff.1 houtcome
    exact ⟨items, hexec, hlength, hitem, hplain⟩
  | rejected _ _ houtcomes =>
    obtain ⟨hi, hresult⟩ := List.getElem?_eq_some_iff.1 hsuccess
    exact absurd hresult (houtcomes.get (houtcomes.length_eq ▸ hi) hi).ne_success

/-- Whatever the replies to a transaction of `count` commands are, they are spread over the
commands, or there is an error. As many outcomes as commands come of them, and a command succeeds
only if the answer to the closing request holds as many replies, with one at its place that is no
error. -/
theorem outcomes_spread {replies : List Reply} (hlength : replies.length = count + 2) :
    ∃ opening queued exec, replies = opening :: (queued ++ [exec]) ∧ queued.length = count ∧
      Spreads opening queued exec (outcomes count replies) ∧
      ∀ results : List Outcome, outcomes count replies = .ok results → results.length = count ∧
        ∀ (i : Nat) (reply : Reply), results[i]? = some (.success reply) →
          ∃ items, exec = .array items ∧ items.length = count ∧ items[i]? = some reply ∧
            ∀ line, ¬reply.IsErrorWith line := by
  obtain _ | ⟨opening, rest⟩ := replies
  · cases hlength
  obtain rfl | ⟨queued, exec, rfl⟩ := rest.eq_nil_or_concat'
  · cases hlength
  obtain rfl : queued.length = count := by simpa using hlength
  have hspreads := spreads_outcomes opening exec queued
  refine ⟨opening, queued, exec, rfl, rfl, hspreads, fun results hresults => ?_⟩
  rw [hresults] at hspreads
  exact ⟨hspreads.length_eq, fun i reply => hspreads.holds_success⟩

/-- Of two commands the second one is not acknowledged. -/
theorem outcomes_spread_rejected :
    let line : Bytes := [69, 82, 82]
    let abort : Bytes := [69, 88]
    let replies : List Reply := [.ok, .simple [81], .bulkError line, .error abort]
    replies.length = 2 + 2 ∧
      outcomes 2 replies = .ok [.failure (.ofLine abort), .failure (.ofLine line)] ∧
      ∀ results, outcomes 2 replies = .ok results → results.length = 2 := by
  intro line abort replies
  obtain ⟨_, _, _, -, -, -, hresults⟩ := outcomes_spread (show replies.length = 2 + 2 from rfl)
  exact ⟨rfl, rfl, fun results h => (hresults results h).1⟩

end Transaction

end ClusterBatch
