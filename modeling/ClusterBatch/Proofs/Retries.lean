import ClusterBatch.Proofs.ReplySplitting
import ClusterBatch.Proofs.Sends

/-!
# Sending until a connection holds

An exchange sends its parcel until the connection does not fail, or until no attempt is left. All
attempts but the last one failed, and the last one is what the exchange comes to. Between two
attempts it waits once, for as long as is drawn for the earlier one, and it does not wait after the
last.

Main statements: `Transmission.isLost_iff_arrival`, which attempts fail, and
`Parcel.exchange_retries`.
-/

namespace ClusterBatch

namespace Backoff

/-- The draws that remain after the waits that follow the first `count` attempts. -/
def drawsAfter (backoff : Backoff) (draws : Draws) : Nat → Draws
  | 0 => draws
  | count + 1 => (backoff.delay count (backoff.drawsAfter draws count)).2

/-- The wait that follows an attempt, if all attempts before it were followed by waits. -/
def waitAfter (backoff : Backoff) (draws : Draws) (attempt : Nat) : Nat :=
  (backoff.delay attempt (backoff.drawsAfter draws attempt)).1

end Backoff

namespace Transmission

variable {t : Transmission}

theorem isLost_iff : t.isLost = true ↔ ∃ cause, t.result = .error (.connection cause) := by
  constructor
  · intro h
    unfold isLost at h
    split at h
    · next cause hresult => exact ⟨cause, hresult⟩
    · cases h
  · rintro ⟨cause, hcause⟩
    exact isLost_of_result hcause

theorem result_of_arrival {data : Bytes} (h : t.arrival.result = .ok data) :
    t.result = readReplies t.parcel.count data := by
  rw [result, h]
  rfl

/-- What is lost: nothing came in, or what came in ends before the last reply does. -/
theorem isLost_iff_arrival :
    t.isLost = true ↔ (∃ cause, t.arrival.result = .error cause) ∨
      ∃ data received rest, t.arrival.result = .ok data ∧ received.length < t.parcel.count ∧
        Reply.BeginsWith data received rest ∧ Reply.decode {} rest = .error .incomplete := by
  rw [isLost_iff]
  constructor
  · rintro ⟨cause, hcause⟩
    cases harrival : t.arrival.result with
    | error cause => exact .inl ⟨cause, rfl⟩
    | ok data =>
      rw [result_of_arrival harrival] at hcause
      obtain ⟨received, rest, stop, hlt, hbegins, hstop, hfault⟩ :=
        readReplies_eq_error_iff.1 hcause
      obtain rfl : stop = .incomplete := by
        by_contra hne
        simp [hne] at hfault
      exact .inr ⟨data, received, rest, rfl, hlt, hbegins, hstop⟩
  · rintro (⟨cause, harrival⟩ | ⟨data, received, rest, harrival, hlt, hbegins, hstop⟩)
    · exact ⟨cause, by rw [result, harrival]; rfl⟩
    · exact ⟨_, (result_of_arrival harrival).trans (readReplies_of_stop hlt hbegins hstop)⟩

/-- What comes in too late is lost. -/
theorem isLost_of_late {arrival : Arrival} {limit : Nat} (hlate : limit < arrival.delay)
    (harrival : t.arrival = arrival.within (some limit)) : t.isLost = true := by
  refine isLost_iff_arrival.2 (.inl ⟨.noReply limit, ?_⟩)
  rw [harrival, Arrival.within, if_neg (Nat.not_le.2 hlate)]

/-- What makes no sense is not lost, whatever is missing behind it. -/
theorem result_of_malformed {data rest : Bytes} {received : List Reply} {cause : DecodeError}
    (harrival : t.arrival.result = .ok data) (hlt : received.length < t.parcel.count)
    (hbegins : Reply.BeginsWith data received rest) (hstop : Reply.decode {} rest = .error cause)
    (hmalformed : cause ≠ .incomplete) :
    t.result = .error (.undecodable cause) ∧ t.isLost = false := by
  have hresult : t.result = .error (.undecodable cause) := by
    rw [result_of_arrival harrival, readReplies_of_stop hlt hbegins hstop, if_neg hmalformed]
  exact ⟨hresult, by rw [isLost, hresult]⟩

end Transmission

variable {σ : Type} [Network σ]

/-- What is sent, one after the other, is answered by the nodes as they are at that time, and their
answers are waited for up to the limit. -/
inductive Answered (limit : Option Nat) : σ → List Transmission → σ → Prop
  | nil (nodes : σ) : Answered limit nodes [] nodes
  | cons {nodes after : σ} {t : Transmission} {rest : List Transmission}
    (harrival : t.arrival = (Network.send t.sending nodes).1.within limit)
    (hrest : Answered limit (Network.send t.sending nodes).2 rest after) :
    Answered limit nodes (t :: rest) after

/-- How a parcel is sent: the connections of all attempts in `lost` fail and the attempt `last` is
final. That fails too only if all of `left` further attempts have been made. The attempt number `k`
is followed by the wait `waits k`, except the last. -/
structure Retries (limit : Option Nat) (parcel : Parcel) (left : Nat) (waits : Nat → Nat)
    (before : Session σ) (lost : List Transmission) (last : Transmission) (after : Session σ) :
    Prop where
  history_eq : after.history = before.history ++ (lost ++ [last])
  answered : Answered limit before.nodes (lost ++ [last]) after.nodes
  parcel_eq : ∀ t ∈ lost ++ [last], t.parcel = parcel
  isLost : ∀ t ∈ lost, t.isLost = true
  length_le : lost.length ≤ left
  final : last.isLost = true → lost.length = left
  starts : ∀ t, (lost ++ [last])[0]? = some t → t.time = before.time
  waits_eq : ∀ k t next, (lost ++ [last])[k]? = some t → (lost ++ [last])[k + 1]? = some next →
    next.time = t.time + t.arrival.delay + waits k
  ends : after.time = last.time + last.arrival.delay
  directory_eq : after.directory = before.directory
  router_eq : after.router = before.router

namespace Parcel

def transmission (limit : Option Nat) (parcel : Parcel) (session : Session σ) : Transmission :=
  let sending : Sending := ⟨session.time, parcel.node, parcel.frame⟩
  ⟨session.time, parcel, (Network.send sending session.nodes).1.within limit⟩

/-- The session after a parcel has been sent and something has come back. -/
def attempted (limit : Option Nat) (parcel : Parcel) (session : Session σ) : Session σ :=
  let t := parcel.transmission limit session
  { session with
    nodes := (Network.send t.sending session.nodes).2
    time := session.time + t.arrival.delay
    log := t :: session.log }

/-- The session after the wait for an attempt that failed. -/
def rested (backoff : Backoff) (attempt : Nat) (session : Session σ) : Session σ :=
  { session with
    time := session.time + (backoff.delay attempt session.jitter).1
    jitter := (backoff.delay attempt session.jitter).2 }

variable {limit : Option Nat} {parcel : Parcel} {session after : Session σ} {left : Nat}
  {waits : Nat → Nat} {lost : List Transmission} {last : Transmission}

theorem run_attempt (limit : Option Nat) (parcel : Parcel) (session : Session σ) :
    (parcel.attempt limit).run session =
      ((parcel.transmission limit session).result, parcel.attempted limit session) := rfl

/-- An attempt that is final. -/
theorem retries_single
    (h : (parcel.transmission limit session).isLost = true → left = 0) :
    Retries limit parcel left waits session [] (parcel.transmission limit session)
      (parcel.attempted limit session) where
  history_eq := List.reverse_cons
  answered := .cons rfl (.nil _)
  parcel_eq := by simp [transmission]
  isLost := nofun
  length_le := Nat.zero_le _
  final hlost := (h hlost).symm
  starts t ht := by
    cases ht
    rfl
  waits_eq k t next _ hnext := by simp at hnext
  ends := rfl
  directory_eq := rfl
  router_eq := rfl

/-- An attempt whose connection fails, and the attempts after the wait for it. -/
theorem retries_cons {backoff : Backoff} {attempt : Nat}
    (hlost : (parcel.transmission limit session).isLost = true)
    (hwait : waits 0 = (backoff.delay attempt session.jitter).1)
    (h : Retries limit parcel left (waits <| · + 1)
      (rested backoff attempt (parcel.attempted limit session)) lost last after) :
    Retries limit parcel (left + 1) waits session (parcel.transmission limit session :: lost) last
      after where
  history_eq := by
    rw [h.history_eq]
    simp [rested, attempted, Session.history]
  answered := .cons rfl h.answered
  parcel_eq := List.forall_mem_cons.2 ⟨rfl, h.parcel_eq⟩
  isLost := List.forall_mem_cons.2 ⟨hlost, h.isLost⟩
  length_le := Nat.succ_le_succ h.length_le
  final hfinal := congrArg (· + 1) (h.final hfinal)
  starts t ht := by
    cases ht
    rfl
  waits_eq k t next ht hnext := by
    cases k with
    | zero =>
      cases ht
      rw [h.starts next hnext, hwait]
      rfl
    | succ k => exact h.waits_eq k t next ht hnext
  ends := h.ends
  directory_eq := h.directory_eq
  router_eq := h.router_eq

theorem run_exchangeWith_of_lost (backoff : Backoff) {cause : ConnectionError}
    (h : (parcel.transmission limit session).result = .error (.connection cause)) :
    (parcel.exchangeWith limit backoff (left + 1)).run session =
      (parcel.exchangeWith limit backoff left).run
        (rested backoff (backoff.retries.toNat - (left + 1)) (parcel.attempted limit session)) := by
  rw [exchangeWith, StateT.run_bind, run_attempt, h]
  rfl

theorem run_exchangeWith_of_not_lost (backoff : Backoff)
    (h : (parcel.transmission limit session).isLost = false) :
    (parcel.exchangeWith limit backoff left).run session =
      ((parcel.transmission limit session).result, parcel.attempted limit session) := by
  cases left with
  | zero => rfl
  | succ left =>
    rw [exchangeWith, StateT.run_bind, run_attempt]
    cases hresult : (parcel.transmission limit session).result with
    | ok replies => rfl
    | error cause =>
      cases cause with
      | connection cause => simp [Transmission.isLost_of_result hresult] at h
      | undecodable cause => rfl

/-- From any attempt on, a parcel is sent until the connection does not fail or no attempt is
left. -/
theorem retries_exchangeWith (limit : Option Nat) (backoff : Backoff) (parcel : Parcel)
    (draws : Draws) {attempt left : Nat} (hleft : attempt + left = backoff.retries.toNat)
    (session : Session σ) (hjitter : session.jitter = backoff.drawsAfter draws attempt) :
    let run := (parcel.exchangeWith limit backoff left).run session
    ∃ lost last, run.1 = last.result ∧
      Retries limit parcel left (fun k => backoff.waitAfter draws (attempt + k)) session lost last
        run.2 ∧
      run.2.jitter = backoff.drawsAfter draws (attempt + lost.length) := by
  -- Attempts are numbered from the first one on and counted down to the last one, and `hleft` keeps
  -- both together.
  induction left generalizing attempt session with
  | zero => exact ⟨[], _, rfl, retries_single fun _ => rfl, hjitter⟩
  | succ left ih =>
    intro run
    cases hlost : (parcel.transmission limit session).isLost with
    | false =>
      have hrun : run = _ := run_exchangeWith_of_not_lost backoff hlost
      rw [hrun]
      exact ⟨[], _, rfl, retries_single (by simp [hlost]), hjitter⟩
    | true =>
      obtain ⟨cause, hcause⟩ := Transmission.isLost_iff.1 hlost
      have hrun : run = _ := run_exchangeWith_of_lost backoff hcause
      rw [show backoff.retries.toNat - (left + 1) = attempt by omega] at hrun
      have hnext : (rested backoff attempt (parcel.attempted limit session)).jitter =
          backoff.drawsAfter draws (attempt + 1) := by
        rw [Backoff.drawsAfter, ← hjitter]
        rfl
      obtain ⟨lost, last, hresult, hretries, hdraws⟩ :=
        @ih (attempt + 1) (by omega) _ hnext
      have hwait : backoff.waitAfter draws (attempt + 0) =
          (backoff.delay attempt session.jitter).1 := by
        rw [hjitter]
        rfl
      rw [hrun]
      refine ⟨parcel.transmission limit session :: lost, last, hresult,
        retries_cons hlost hwait ?_, ?_⟩
      · simpa only [Nat.add_assoc, Nat.add_comm 1] using hretries
      · rw [hdraws, List.length_cons, Nat.add_assoc, Nat.add_comm 1]

/-- An exchange sends the same parcel to the same node until a connection does not fail, at most
once and as often again as is allowed. It returns what the last attempt brought, or its failure.
Between two attempts it waits once, for the delay that is drawn for the earlier of them; nothing
else takes time but the answers. -/
theorem exchange_retries (limit : Option Nat) (backoff : Backoff) (parcel : Parcel)
    (session : Session σ) :
    let run := (parcel.exchange limit backoff : Call σ _).run.run session
    ∃ lost last,
      Retries limit parcel backoff.retries.toNat (backoff.waitAfter session.jitter) session lost
        last run.2 ∧
      run.2.jitter = backoff.drawsAfter session.jitter lost.length ∧
      run.1 = last.result.mapError (Error.ofExchange parcel.node) := by
  obtain ⟨lost, last, hresult, hretries, hjitter⟩ :=
    retries_exchangeWith limit backoff parcel session.jitter (Nat.zero_add _) session rfl
  rw [Nat.zero_add] at hjitter
  simp only [Nat.zero_add] at hretries
  exact ⟨lost, last, hretries, hjitter,
    congrArg (·.mapError (Error.ofExchange parcel.node)) hresult⟩

end Parcel

end ClusterBatch
