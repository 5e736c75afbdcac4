import ClusterBatch.Proofs.Sends
import Mathlib.Data.List.Forall2

/-!
# What a dispatch sends

While no connection fails, a parcel under way carries what was sent for it at the start: it awaits
what that brings or has settled on it. This holds at every instant, whatever the order in which the
parcels come to their end, and at the end they are settled.

Main statement: `sends_dispatch`, each of several parcels is sent once, and what it brings is
returned in its place.
-/

namespace ClusterBatch

variable {σ : Type} [Network σ]

namespace Flight

/-- A parcel under way has been sent once and comes to what that brings. -/
def Carries (flight : Flight) (t : Transmission) : Prop :=
  flight.parcel = t.parcel ∧ (flight.stage = .awaiting t.result ∨ flight.stage = .settled t.result)

theorem sends_launch (limit : Option Nat) (left : Nat) (parcel : Parcel) :
    Sends (launch limit left parcel : Activity σ _) fun sent flight =>
      ∃ t, sent = [t] ∧ t.parcel = parcel ∧ flight.Carries t := by
  intro session
  let sending : Sending := ⟨session.time, parcel.node, parcel.frame⟩
  let arrival := (Network.send sending session.nodes).1.within limit
  refine ⟨[⟨session.time, parcel, arrival⟩], List.reverse_cons, ?_⟩
  intro
  exact ⟨_, rfl, rfl, rfl, .inl rfl⟩

theorem Carries.settle {parcel : Parcel} {left due : Nat} {t : Transmission}
    {result : Except ExchangeError (List Reply)}
    (h : Carries ⟨parcel, left, due, .awaiting result⟩ t) :
    t.result = result ∧ Carries ⟨parcel, left, due, .settled result⟩ t := by
  obtain ⟨hparcel, hstage | hstage⟩ := h
  · cases hstage
    exact ⟨rfl, hparcel, .inr rfl⟩
  · cases hstage

/-- A parcel that carries what was sent for it goes on to do so, and nothing more is sent. -/
def StaysWith (flight : Flight) (sent : List Transmission) (next : Flight) : Prop :=
  ∀ t : Transmission, t.isLost = false → flight.Carries t → sent = [] ∧ next.Carries t

omit [Network σ] in
theorem sends_pure {flight next : Flight} (h : ∀ t, flight.Carries t → next.Carries t) :
    Sends (pure next : Activity σ _) flight.StaysWith := by
  refine (Sends.pure next).mono ?_
  rintro _ _ - ⟨rfl, rfl⟩ t - hcarries
  exact ⟨rfl, h t hcarries⟩

theorem sends_advance (limit : Option Nat) (backoff : Backoff) (flight : Flight) :
    Sends (flight.advance limit backoff : Activity σ _) flight.StaysWith := by
  obtain ⟨parcel, left, due, stage⟩ := flight
  match stage, left with
  | .settled result, left => exact sends_pure fun _ => id
  | .resting, left =>
    refine (sends_launch limit left parcel).mono ?_
    rintro _ _ - - t - ⟨-, hstage | hstage⟩ <;> cases hstage
  | .awaiting (.error (.connection cause)), left + 1 =>
    refine (Sends.bind (fun _ sent _ => sent = []) (Sends.quiet ?_) fun _ => Sends.quiet ?_).mono ?_
    · intro session
      rfl
    · intro session
      rfl
    · intro _ _ _ _ t hkept hcarries
      simp [Transmission.isLost_of_result hcarries.settle.1] at hkept
  | .awaiting (.error (.connection cause)), 0 => exact sends_pure fun _ h => h.settle.2
  | .awaiting (.error (.undecodable cause)), left => exact sends_pure fun _ h => h.settle.2
  | .awaiting (.ok replies), left => exact sends_pure fun _ h => h.settle.2

theorem sends_act (limit : Option Nat) (backoff : Backoff) (now : Nat) (flight : Flight) :
    Sends (flight.act limit backoff now : Activity σ _) flight.StaysWith := by
  unfold act
  split
  · exact sends_advance limit backoff flight
  · exact sends_pure fun _ => id

end Flight

namespace Dispatch

/-- Parcels that carry what was sent for them go on to do so, and nothing more is sent. -/
def StayWith (flights : List Flight) (sent : List Transmission) (next : List Flight) : Prop :=
  ∀ first : List Transmission, (∀ t ∈ first, t.isLost = false) →
    List.Forall₂ Flight.Carries flights first →
      sent = [] ∧ List.Forall₂ Flight.Carries next first

theorem sends_acts (limit : Option Nat) (backoff : Backoff) (now : Nat) (flights : List Flight) :
    Sends (flights.mapM (Flight.act limit backoff now) : Activity σ _) (StayWith flights) := by
  induction flights with
  | nil =>
    refine (Sends.pure []).mono ?_
    rintro _ _ - ⟨rfl, rfl⟩ first - hcarries
    exact ⟨rfl, hcarries⟩
  | cons flight rest ih =>
    rw [List.mapM_cons]
    refine (Sends.bind _ (Flight.sends_act limit backoff now flight) fun next =>
      Sends.bind _ ih fun rest => Sends.pure (next :: rest)).mono ?_
    intro sent results _ h first hkept hcarries
    obtain ⟨next, headSent, _, rfl, -, hhead, nexts, restSent, _, rfl, -, hrest, rfl, rfl⟩ := h
    cases hcarries with
    | cons hflight hflights =>
      obtain ⟨hlost, hlosts⟩ := List.forall_mem_cons.1 hkept
      obtain ⟨rfl, hnext⟩ := hhead _ hlost hflight
      obtain ⟨rfl, hnexts⟩ := hrest _ hlosts hflights
      exact ⟨rfl, .cons hnext hnexts⟩

theorem sends_round (limit : Option Nat) (backoff : Backoff) (now : Nat) (flights : List Flight) :
    Sends (round limit backoff now flights : Activity σ _) (StayWith flights) := by
  refine (Sends.bind _ (Sends.quiet fun _ => rfl) fun _ =>
    sends_acts limit backoff now flights).mono ?_
  rintro _ _ - ⟨-, _, sent, rfl, -, rfl, hstay⟩
  exact hstay

/-- Parcels come to their end or one of them has failed. -/
def IsOver (flights : List Flight) : Prop :=
  nextInstant? flights = none ∨ ∃ flight ∈ flights, flight.failure?.isSome

theorem isOver_run (limit : Option Nat) (backoff : Backoff) (flights : List Flight)
    (session : Session σ) : IsOver (run limit backoff flights session).1 := by
  fun_induction run limit backoff flights session with
  | case1 flights session hnone => exact .inl hnone
  | case2 flights session now _ hfailed =>
    simp only [Bool.and_eq_true, List.any_eq_true] at hfailed
    exact .inr hfailed.1
  | case3 flights session now _ _ next ih => exact ih

theorem sends_run (limit : Option Nat) (backoff : Backoff) (flights : List Flight) :
    Sends (modifyGet (run limit backoff flights) : Activity σ _) fun sent final =>
      StayWith flights sent final ∧ IsOver final := by
  intro session
  suffices hstay : ∃ sent,
      (run limit backoff flights session).2.history = session.history ++ sent ∧
      ((∀ t ∈ sent, t.isLost = false) →
        StayWith flights sent (run limit backoff flights session).1) by
    obtain ⟨sent, hhistory, hspec⟩ := hstay
    exact ⟨sent, hhistory, fun hkept => ⟨hspec hkept, isOver_run limit backoff flights session⟩⟩
  fun_induction run limit backoff flights session with
  | case1 flights session _ =>
    exact ⟨[], (List.append_nil _).symm, fun _ _ _ h => ⟨rfl, h⟩⟩
  | case2 flights session _ _ _ =>
    exact ⟨[], (List.append_nil _).symm, fun _ _ _ h => ⟨rfl, h⟩⟩
  | case3 flights session now _ _ next ih =>
    obtain ⟨before, hbefore, hround⟩ := sends_round limit backoff now flights session
    obtain ⟨after, hafter, hrest⟩ := ih
    refine ⟨before ++ after, ?_, ?_⟩
    · rw [hafter, hbefore, List.append_assoc]
    · intro hkept first hfirst hcarries
      obtain ⟨hbeforeKept, hafterKept⟩ := List.forall_mem_append.1 hkept
      obtain ⟨rfl, hnext⟩ := hround hbeforeKept first hfirst hcarries
      exact hrest hafterKept first hfirst hnext

theorem sends_launches (limit : Option Nat) (left : Nat) (parcels : List Parcel) :
    Sends (parcels.mapM (Flight.launch limit left) : Activity σ _) fun sent flights =>
      sent.map Transmission.parcel = parcels ∧ List.Forall₂ Flight.Carries flights sent := by
  induction parcels with
  | nil =>
    refine (Sends.pure []).mono ?_
    rintro _ _ - ⟨rfl, rfl⟩
    exact ⟨rfl, .nil⟩
  | cons parcel rest ih =>
    rw [List.mapM_cons]
    refine (Sends.bind _ (Flight.sends_launch limit left parcel) fun flight =>
      Sends.bind _ ih fun rest => Sends.pure (flight :: rest)).mono ?_
    intro sent results _ h
    obtain ⟨flight, _, _, rfl, -, ⟨t, rfl, rfl, hflight⟩, flights, later, _, rfl, -,
      ⟨rfl, hflights⟩, rfl, rfl⟩ := h
    refine ⟨by simp, ?_⟩
    simpa using ⟨hflight, hflights⟩

/-- What a dispatch comes to: what all that was sent brought, in order, or what is wrong with
something that was brought. -/
def Concludes (sent : List Transmission) : Except Error (List (List Reply)) → Prop
  | .ok replies => sent.map Transmission.result = replies.map .ok
  | .error e => ∃ t ∈ sent, t.Brings (.error e)

/-- Replies are returned only if every parcel has settled on what it brought. -/
theorem settled_of_conclusion {flights : List Flight} {lists : List (List Reply)}
    (hover : IsOver flights) (h : conclusion flights = .ok lists) :
    List.Forall₂ (fun flight replies => flight.stage = .settled (.ok replies)) flights lists := by
  unfold conclusion at h
  split at h
  · cases h
  · next hsound =>
    cases h
    rw [List.findSome?_eq_none_iff] at hsound
    obtain hdue | ⟨flight, hmem, hfailed⟩ := hover
    · rw [nextInstant?, List.min?_eq_none_iff, List.filterMap_eq_nil_iff] at hdue
      induction flights with
      | nil => exact .nil
      | cons flight flights ih =>
        obtain ⟨hfirst, hrest⟩ := List.forall_mem_cons.1 hdue
        obtain ⟨hfirstSound, hrestSound⟩ := List.forall_mem_cons.1 hsound
        have hsettled : ∃ replies, flight.stage = .settled (.ok replies) := by
          cases hstage : flight.stage with
          | awaiting result => simp [Flight.due?, hstage] at hfirst
          | resting => simp [Flight.due?, hstage] at hfirst
          | settled result =>
            cases result with
            | error cause => simp [Flight.failure?, hstage] at hfirstSound
            | ok replies => exact ⟨replies, rfl⟩
        obtain ⟨replies, hreplies⟩ := hsettled
        have hbrought : flight.replies? = some replies := by simp [Flight.replies?, hreplies]
        rw [List.filterMap_cons_some hbrought]
        exact .cons hreplies (ih hrestSound hrest)
    · simp [hsound flight hmem] at hfailed

theorem concludes_replies {flights : List Flight} {sent : List Transmission}
    {lists : List (List Reply)} (hcarries : List.Forall₂ Flight.Carries flights sent)
    (hsettled : List.Forall₂ (fun flight replies => flight.stage = .settled (.ok replies)) flights
      lists) : Concludes sent (.ok lists) := by
  induction hcarries generalizing lists with
  | nil =>
    cases hsettled
    rfl
  | @cons flight t flights sent hflight _ ih =>
    obtain ⟨replies, others, hreplies, hothers, rfl⟩ := List.forall₂_cons_left_iff.1 hsettled
    obtain ⟨-, hstage | hstage⟩ := hflight
    · exact nomatch hreplies.symm.trans hstage
    · have hresult := Stage.settled.inj (hstage.symm.trans hreplies)
      exact congrArg₂ List.cons hresult (ih hothers)

theorem concludes_failure {flights : List Flight} {sent : List Transmission} {e : Error}
    (hkept : ∀ t ∈ sent, t.isLost = false) (hcarries : List.Forall₂ Flight.Carries flights sent)
    (hfailure : flights.findSome? Flight.failure? = some e) : Concludes sent (.error e) := by
  induction hcarries with
  | nil => cases hfailure
  | @cons flight t flights sent hflight _ ih =>
    obtain ⟨hlost, hkept⟩ := List.forall_mem_cons.1 hkept
    rw [List.findSome?_cons] at hfailure
    cases hown : flight.failure? with
    | none =>
      rw [hown] at hfailure
      obtain ⟨t, ht, hbrings⟩ := ih hkept hfailure
      exact ⟨t, List.mem_cons_of_mem _ ht, hbrings⟩
    | some e' =>
      rw [hown] at hfailure
      cases hfailure
      obtain ⟨-, hstage | hstage⟩ := hflight
      · simp [Flight.failure?, hstage] at hown
      · cases hresult : t.result with
        | ok replies => simp [Flight.failure?, hstage, hresult] at hown
        | error cause =>
          cases cause with
          | connection cause => simp [Transmission.isLost_of_result hresult] at hlost
          | undecodable cause =>
            simp [Flight.failure?, hstage, hresult] at hown
            exact ⟨t, List.mem_cons_self, cause, hresult, hown.symm⟩

theorem concludes_conclusion {flights : List Flight} {sent : List Transmission}
    (hkept : ∀ t ∈ sent, t.isLost = false) (hcarries : List.Forall₂ Flight.Carries flights sent)
    (hover : IsOver flights) : Concludes sent (conclusion flights) := by
  cases h : conclusion flights with
  | ok lists => exact concludes_replies hcarries (settled_of_conclusion hover h)
  | error e =>
    unfold conclusion at h
    split at h
    · next e' hfailure =>
      cases h
      exact concludes_failure hkept hcarries hfailure
    · cases h

theorem sends_together (limit : Option Nat) (backoff : Backoff) (parcels : List Parcel) :
    Sends (together limit backoff parcels : Call σ _).run fun sent result =>
      sent.map Transmission.parcel = parcels ∧ Concludes sent result := by
  refine (Sends.bind _ (sends_launches limit _ parcels) fun flights =>
    Sends.map _ (sends_run limit backoff flights)).mono ?_
  intro sent result _ h
  obtain ⟨flights, first, later, rfl, hkept, ⟨hparcels, hcarries⟩, final, ⟨hstay, hover⟩, rfl⟩ := h
  obtain ⟨rfl, hfinal⟩ := hstay first hkept hcarries
  rw [List.append_nil]
  exact ⟨hparcels, concludes_conclusion hkept hfinal hover⟩

end Dispatch

/-- Each parcel is sent once, and what it brings is returned in its place. -/
theorem sends_dispatch (limit : Option Nat) (backoff : Backoff) (parcels : List Parcel) :
    Sends (dispatch limit backoff parcels : Call σ _).run fun sent result =>
      sent.map Transmission.parcel = parcels ∧ Dispatch.Concludes sent result := by
  match parcels with
  | [] => exact Dispatch.sends_together limit backoff []
  | first :: second :: rest => exact Dispatch.sends_together limit backoff (first :: second :: rest)
  | [parcel] =>
    refine (Sends.mapCall (fun replies => [replies]) (parcel.sends_exchange limit backoff)).mono ?_
    intro sent result _ h
    obtain ⟨e, ⟨t, rfl, rfl, hbrings⟩, rfl⟩ | ⟨replies, ⟨t, rfl, rfl, hbrings⟩, rfl⟩ := h
    · exact ⟨rfl, t, List.mem_singleton_self t, hbrings⟩
    · exact ⟨rfl, congrArg (fun result => [result]) hbrings⟩

end ClusterBatch
