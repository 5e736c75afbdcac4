import ClusterBatch.Exchange

/-!
# Dispatch

Several parcels are sent at the same time, and each is sent again on its own clock when its
connection fails. Whatever is due at the same instant happens in the order of the parcels. The
whole dispatch fails at the first instant at which a parcel fails for good, with the failure of
the first such parcel; nothing that is due later happens then.

Main statement: `potential_round_lt`, every instant brings the parcels closer to their end.
-/

namespace ClusterBatch

/-- How far a parcel has come. -/
inductive Stage where
  /-- It has been sent, and this comes of it. -/
  | awaiting (result : Except ExchangeError (List Reply))
  /-- It rests before it is sent again. -/
  | resting
  | settled (result : Except ExchangeError (List Reply))

structure Flight where
  parcel : Parcel
  /-- How many times more it may be sent. -/
  left : Nat
  /-- When it moves on. -/
  due : Nat
  stage : Stage

namespace Flight

variable {σ : Type} [Network σ]

/-- When a parcel moves on that is not settled yet. -/
def due? (flight : Flight) : Option Nat :=
  match flight.stage with
  | .settled _ => none
  | _ => some flight.due

def failure? (flight : Flight) : Option Error :=
  match flight.stage with
  | .settled (.error cause) => some (.ofExchange flight.parcel.node cause)
  | _ => none

def replies? (flight : Flight) : Option (List Reply) :=
  match flight.stage with
  | .settled (.ok replies) => some replies
  | _ => none

def launch (limit : Option Nat) (left : Nat) (parcel : Parcel) : Activity σ Flight := do
  let arrival ← Session.send limit parcel
  let session ← get
  pure ⟨parcel, left, session.time + arrival.delay, .awaiting (parcel.unpack arrival.result)⟩

/-- Moves a parcel on. -/
def advance (limit : Option Nat) (backoff : Backoff) (flight : Flight) : Activity σ Flight :=
  match flight.stage, flight.left with
  | .awaiting (.error (.connection _)), left + 1 => do
    let delay ← Session.drawDelay backoff (backoff.retries.toNat - (left + 1))
    let session ← get
    pure ⟨flight.parcel, left, session.time + delay, .resting⟩
  | .awaiting result, left => pure ⟨flight.parcel, left, flight.due, .settled result⟩
  | .resting, left => launch limit left flight.parcel
  | .settled _, _ => pure flight

def act (limit : Option Nat) (backoff : Backoff) (now : Nat) (flight : Flight) :
    Activity σ Flight :=
  if flight.due? = some now then flight.advance limit backoff else pure flight

/-- How many times a parcel can still move on. -/
def potential (flight : Flight) : Nat :=
  match flight.stage with
  | .awaiting _ => 2 * flight.left + 1
  | .resting => 2 * flight.left + 2
  | .settled _ => 0

end Flight

namespace Dispatch

variable {σ : Type} [Network σ]

def nextInstant? (flights : List Flight) : Option Nat := (flights.filterMap Flight.due?).min?

def potential : List Flight → Nat
  | [] => 0
  | flight :: rest => flight.potential + potential rest

/-- Moves those parcels on that are due now, in order. -/
def round (limit : Option Nat) (backoff : Backoff) (now : Nat) (flights : List Flight) :
    Activity σ (List Flight) := do
  modify fun session => { session with time := now }
  flights.mapM (Flight.act limit backoff now)

theorem potential_advance_lt (limit : Option Nat) (backoff : Backoff) (flight : Flight)
    (session : Session σ) (h : flight.due? ≠ none) :
    ((flight.advance limit backoff).run session).1.potential < flight.potential := by
  obtain ⟨parcel, left, due, stage⟩ := flight
  match stage, left with
  | .settled _, _ => exact absurd rfl h
  | .resting, left => exact (by omega : 2 * left + 1 < 2 * left + 2)
  | .awaiting (.ok _), left => exact (by omega : 0 < 2 * left + 1)
  | .awaiting (.error (.undecodable _)), left => exact (by omega : 0 < 2 * left + 1)
  | .awaiting (.error (.connection _)), 0 => exact Nat.zero_lt_one
  | .awaiting (.error (.connection _)), left + 1 =>
    exact (by omega : 2 * left + 2 < 2 * (left + 1) + 1)

theorem potential_act_le (limit : Option Nat) (backoff : Backoff) (now : Nat) (flight : Flight)
    (session : Session σ) :
    ((flight.act limit backoff now).run session).1.potential ≤ flight.potential := by
  unfold Flight.act
  split
  · next h => exact Nat.le_of_lt (potential_advance_lt _ _ _ _ (by simp [h]))
  · exact Nat.le_refl _

theorem potential_acts_le (limit : Option Nat) (backoff : Backoff) (now : Nat)
    (flights : List Flight) (session : Session σ) :
    potential ((flights.mapM (Flight.act limit backoff now)).run session).1
      ≤ potential flights := by
  induction flights generalizing session with
  | nil => exact Nat.le_refl _
  | cons flight rest ih =>
    have h := potential_act_le limit backoff now flight session
    simp only [List.mapM_cons, potential, StateT.run_bind]
    exact Nat.add_le_add h (ih _)

theorem potential_acts_lt (limit : Option Nat) (backoff : Backoff) {now : Nat}
    {flights : List Flight} (session : Session σ) (h : ∃ flight ∈ flights, flight.due? = some now) :
    potential ((flights.mapM (Flight.act limit backoff now)).run session).1
      < potential flights := by
  induction flights generalizing session with
  | nil => simp at h
  | cons flight rest ih =>
    have hle := potential_act_le limit backoff now flight session
    have hrest := potential_acts_le limit backoff now rest
      ((flight.act limit backoff now).run session).2
    simp only [List.mapM_cons, potential, StateT.run_bind]
    obtain ⟨found, hmem, hdue⟩ := h
    rcases List.mem_cons.1 hmem with rfl | hmem
    · have hlt : ((found.act limit backoff now).run session).1.potential < found.potential := by
        have hmoves := potential_advance_lt limit backoff found session (by simp [hdue])
        simpa [Flight.act, hdue] using hmoves
      exact Nat.add_lt_add_of_lt_of_le hlt hrest
    · exact Nat.add_lt_add_of_le_of_lt hle (ih _ ⟨found, hmem, hdue⟩)

/-- Every instant brings the parcels closer to their end. -/
theorem potential_round_lt (limit : Option Nat) (backoff : Backoff) {now : Nat}
    {flights : List Flight} (session : Session σ) (h : nextInstant? flights = some now) :
    potential ((round limit backoff now flights).run session).1 < potential flights := by
  have hmem : now ∈ flights.filterMap Flight.due? := List.min?_mem h
  exact potential_acts_lt limit backoff _ (List.mem_filterMap.1 hmem)

/-- Lets instants pass until every parcel is settled, or until the instant after which one has
failed for good. -/
def run (limit : Option Nat) (backoff : Backoff) (flights : List Flight) (session : Session σ) :
    List Flight × Session σ :=
  match h : nextInstant? flights with
  | none => (flights, session)
  | some now =>
    if flights.any (·.failure?.isSome) && session.time < now then (flights, session)
    else
      let next := (round limit backoff now flights).run session
      run limit backoff next.1 next.2
termination_by potential flights
decreasing_by exact potential_round_lt limit backoff session h

/-- What parcels come to: what each of them brought, or why the first of them failed. -/
def conclusion (flights : List Flight) : Except Error (List (List Reply)) :=
  match flights.findSome? Flight.failure? with
  | some cause => .error cause
  | none => .ok (flights.filterMap Flight.replies?)

/-- Sends several parcels at the same time, and returns what each of them brought. -/
def together (limit : Option Nat) (backoff : Backoff) (parcels : List Parcel) :
    Call σ (List (List Reply)) := ExceptT.mk do
  let flights ← parcels.mapM (Flight.launch limit backoff.retries.toNat)
  conclusion <$> modifyGet (run limit backoff flights)

end Dispatch

def dispatch {σ : Type} [Network σ] (limit : Option Nat) (backoff : Backoff) :
    List Parcel → Call σ (List (List Reply))
  | [parcel] => do pure [← parcel.exchange limit backoff]
  | parcels => Dispatch.together limit backoff parcels

end ClusterBatch
