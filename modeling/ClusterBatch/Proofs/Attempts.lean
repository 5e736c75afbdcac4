import ClusterBatch.Proofs.DispatchRun

/-!
# What is sent at all

However often connections fail, an exchange sends nothing but its own parcel and a dispatch nothing
but its own parcels, and the directory stays as it is. Replies that are returned were brought by
something that was sent.

Main statement: `adds_dispatch`.
-/

namespace ClusterBatch

variable {σ α β : Type}

/-- An activity leaves the directory alone, and what it adds to the history and what it returns are
as specified, whatever becomes of the connections. -/
def Adds (activity : Activity σ α) (spec : List Transmission → α → Prop) : Prop :=
  ∀ session, ∃ sent, (activity.run session).2.history = session.history ++ sent ∧
    (activity.run session).2.directory = session.directory ∧ spec sent (activity.run session).1

namespace Adds

variable {activity : Activity σ α} {next : α → Activity σ β}
  {spec weaker : List Transmission → α → Prop}

theorem mono (h : Adds activity spec) (hweaker : ∀ sent a, spec sent a → weaker sent a) :
    Adds activity weaker := by
  intro session
  obtain ⟨sent, hhistory, hdirectory, hspec⟩ := h session
  exact ⟨sent, hhistory, hdirectory, hweaker sent _ hspec⟩

/-- What holds of an activity that neither sends nor publishes anything. -/
theorem idle (h : ∀ session, (activity.run session).2.directory = session.directory ∧
    (activity.run session).2.log = session.log) : Adds activity fun sent _ => sent = [] := by
  intro session
  have hhistory : (activity.run session).2.history = session.history :=
    congrArg List.reverse (h session).2
  exact ⟨[], by rw [hhistory, List.append_nil], (h session).1, rfl⟩

theorem pure (a : α) : Adds (σ := σ) (Pure.pure a) fun sent b => sent = [] ∧ b = a :=
  fun _ => ⟨[], (List.append_nil _).symm, rfl, rfl, rfl⟩

theorem bind (nextSpec : α → List Transmission → β → Prop) (h : Adds activity spec)
    (hnext : ∀ a, Adds (next a) (nextSpec a)) :
    Adds (activity >>= next) fun sent b =>
      ∃ a first second, sent = first ++ second ∧ spec first a ∧ nextSpec a second b := by
  intro session
  obtain ⟨first, hfirst, hkept, hspec⟩ := h session
  obtain ⟨second, hsecond, hnextKept, hnextSpec⟩ :=
    hnext (activity.run session).1 (activity.run session).2
  refine ⟨first ++ second, ?_, hnextKept.trans hkept, _, first, second, rfl, hspec, hnextSpec⟩
  rw [← List.append_assoc, ← hfirst]
  exact hsecond

theorem map (f : α → β) (h : Adds activity spec) :
    Adds (f <$> activity) fun sent b => ∃ a, spec sent a ∧ b = f a := by
  intro session
  obtain ⟨sent, hhistory, hdirectory, hspec⟩ := h session
  exact ⟨sent, hhistory, hdirectory, _, hspec, rfl⟩

theorem mapCall {call : Call σ α} {spec : List Transmission → Except Error α → Prop} (f : α → β)
    (h : Adds call.run spec) :
    Adds (do Pure.pure (f (← call)) : Call σ β).run fun sent b =>
      ∃ a, spec sent a ∧ b = a.map f := by
  let next (a : α) : Call σ β := Pure.pure (f a)
  have hafter (a : Except Error α) :
      Adds (ExceptT.bindCont next a) fun sent b => sent = [] ∧ b = a.map f := by
    cases a with
    | error e => exact pure _
    | ok a => exact pure _
  refine (bind _ h hafter).mono ?_
  rintro sent b ⟨a, first, _, rfl, hspec, rfl, rfl⟩
  exact ⟨a, by simpa using hspec, rfl⟩

end Adds

/-- These replies are all that something that was sent has brought. -/
def Brought (sent : List Transmission) (replies : List Reply) : Prop :=
  ∃ t ∈ sent, t.result = .ok replies

/-- These replies are all that a parcel has brought, one of the times that it was sent. -/
def BroughtFor (sent : List Transmission) (parcel : Parcel) (replies : List Reply) : Prop :=
  ∃ t ∈ sent, t.parcel = parcel ∧ t.result = .ok replies

theorem brought_of_mem {sent : List Transmission} {parcels : List Parcel}
    {lists : List (List Reply)} {replies : List Reply}
    (h : List.Forall₂ (BroughtFor sent) parcels lists) (hreplies : replies ∈ lists) :
    Brought sent replies := by
  induction h with
  | nil => cases hreplies
  | cons hfirst _ ih =>
    rcases List.mem_cons.1 hreplies with rfl | hreplies
    · obtain ⟨t, ht, -, hresult⟩ := hfirst
      exact ⟨t, ht, hresult⟩
    · exact ih hreplies

theorem broughtFor_of_results {sent : List Transmission} {lists : List (List Reply)}
    (h : sent.map Transmission.result = lists.map .ok) :
    List.Forall₂ (BroughtFor sent) (sent.map Transmission.parcel) lists := by
  induction sent generalizing lists with
  | nil =>
    obtain rfl : lists = [] := List.map_eq_nil_iff.1 h.symm
    exact .nil
  | cons t sent ih =>
    cases lists with
    | nil => cases h
    | cons replies lists =>
      obtain ⟨hfirst, hrest⟩ := List.cons.inj h
      refine .cons ⟨t, List.mem_cons_self, rfl, hfirst⟩ ((ih hrest).imp ?_)
      rintro parcel replies ⟨u, hu, hbrought⟩
      exact ⟨u, List.mem_cons_of_mem _ hu, hbrought⟩

variable [Network σ]

namespace Parcel

theorem adds_attempt (limit : Option Nat) (parcel : Parcel) :
    Adds (σ := σ) (parcel.attempt limit) fun sent result =>
      ∃ t, sent = [t] ∧ t.parcel = parcel ∧ result = t.result := by
  intro session
  let sending : Sending := ⟨session.time, parcel.node, parcel.frame⟩
  let arrival := (Network.send sending session.nodes).1.within limit
  exact ⟨[⟨session.time, parcel, arrival⟩], List.reverse_cons, rfl, _, rfl, rfl, rfl⟩

theorem adds_exchangeWith (limit : Option Nat) (backoff : Backoff) (parcel : Parcel) (left : Nat) :
    Adds (σ := σ) (parcel.exchangeWith limit backoff left) fun sent result =>
      (∀ t ∈ sent, t.parcel = parcel) ∧ ∃ t ∈ sent, result = t.result := by
  induction left with
  | zero =>
    refine (adds_attempt limit parcel).mono ?_
    rintro sent result ⟨t, rfl, hparcel, rfl⟩
    simpa using hparcel
  | succ left ih =>
    refine (Adds.bind (fun first sent b => (∀ t ∈ sent, t.parcel = parcel) ∧
      (b = first ∨ ∃ t ∈ sent, b = t.result)) (adds_attempt limit parcel) ?_).mono ?_
    · intro first
      match first with
      | .error (.connection cause) =>
        refine (Adds.bind _ (Adds.idle fun _ => ⟨rfl, rfl⟩) fun _ => ih).mono ?_
        rintro sent result ⟨_, _, second, rfl, rfl, hparcel, hresult⟩
        exact ⟨hparcel, .inr hresult⟩
      | .error (.undecodable _) | .ok _ =>
        refine (Adds.pure _).mono ?_
        rintro sent result ⟨rfl, rfl⟩
        exact ⟨by simp, .inl rfl⟩
    · rintro sent result ⟨_, _, second, rfl, ⟨t, rfl, hparcel, rfl⟩, hparcels, hresult⟩
      refine ⟨by simpa [hparcel] using hparcels, ?_⟩
      obtain rfl | ⟨t', ht', rfl⟩ := hresult
      · exact ⟨t, by simp, rfl⟩
      · exact ⟨t', by simp [ht'], rfl⟩

/-- An exchange sends nothing but its parcel. What it returns was brought. -/
theorem adds_exchange (limit : Option Nat) (backoff : Backoff) (parcel : Parcel) :
    Adds (parcel.exchange limit backoff : Call σ _).run fun sent result =>
      (∀ t ∈ sent, t.parcel = parcel) ∧ ∀ replies, result = .ok replies → Brought sent replies := by
  refine (Adds.map _ (adds_exchangeWith limit backoff parcel _)).mono ?_
  rintro sent result ⟨_, ⟨hparcels, t, ht, rfl⟩, rfl⟩
  refine ⟨hparcels, fun replies hreplies => ⟨t, ht, ?_⟩⟩
  cases hresult : t.result with
  | ok brought =>
    rw [hresult] at hreplies
    cases hreplies
    rfl
  | error cause =>
    rw [hresult] at hreplies
    cases hreplies

end Parcel

namespace Flight

/-- What a parcel under way comes to was brought one of the times that it was sent. -/
def ComesFrom (known : List Transmission) (flight : Flight) : Prop :=
  ∀ result, flight.stage = .awaiting result ∨ flight.stage = .settled result →
    ∃ t ∈ known, t.parcel = flight.parcel ∧ t.result = result

theorem ComesFrom.mono {known more : List Transmission} {flight : Flight}
    (h : flight.ComesFrom known) (hmore : known ⊆ more) : flight.ComesFrom more := by
  intro result hstage
  obtain ⟨t, ht, hresult⟩ := h result hstage
  exact ⟨t, hmore ht, hresult⟩

/-- A parcel under way goes on as the same parcel, nothing else is sent, and what it comes to is
brought. -/
structure GoesOn (flight : Flight) (sent : List Transmission) (next : Flight) : Prop where
  parcel_eq : next.parcel = flight.parcel
  only : ∀ t ∈ sent, t.parcel = flight.parcel
  comesFrom : ∀ known, flight.ComesFrom known → next.ComesFrom (known ++ sent)

theorem goesOn_of_stage {flight next : Flight} (hparcel : next.parcel = flight.parcel)
    (hstage : ∀ result, next.stage = .awaiting result ∨ next.stage = .settled result →
      flight.stage = .awaiting result ∨ flight.stage = .settled result) :
    flight.GoesOn [] next where
  parcel_eq := hparcel
  only := by simp
  comesFrom known h result hnext := by simpa [hparcel] using h result (hstage result hnext)

theorem adds_launch (limit : Option Nat) (left : Nat) (parcel : Parcel) :
    Adds (launch limit left parcel : Activity σ _) fun sent flight =>
      flight.parcel = parcel ∧ (∀ t ∈ sent, t.parcel = parcel) ∧ flight.ComesFrom sent := by
  intro session
  let sending : Sending := ⟨session.time, parcel.node, parcel.frame⟩
  let arrival := (Network.send sending session.nodes).1.within limit
  refine ⟨[⟨session.time, parcel, arrival⟩], List.reverse_cons, rfl, rfl, by simp, ?_⟩
  rintro result (hstage | hstage) <;> cases hstage
  exact ⟨_, List.mem_singleton_self _, rfl, rfl⟩

theorem adds_advance (limit : Option Nat) (backoff : Backoff) (flight : Flight) :
    Adds (flight.advance limit backoff : Activity σ _) flight.GoesOn := by
  have hstays {flight next : Flight} (h : flight.GoesOn [] next) :
      Adds (pure next : Activity σ _) flight.GoesOn := by
    refine (Adds.pure next).mono ?_
    rintro _ _ ⟨rfl, rfl⟩
    exact h
  obtain ⟨parcel, left, due, stage⟩ := flight
  match stage, left with
  | .settled _, _ => exact hstays (goesOn_of_stage rfl fun _ => id)
  | .resting, left =>
    refine (adds_launch limit left parcel).mono ?_
    rintro sent next ⟨hparcel, honly, hcomes⟩
    exact ⟨hparcel, honly, fun known _ => hcomes.mono (List.subset_append_right known sent)⟩
  | .awaiting (.error (.connection cause)), left + 1 =>
    refine (Adds.bind _ (Adds.idle fun _ => ⟨rfl, rfl⟩) fun delay =>
      Adds.bind _ (Adds.idle fun _ => ⟨rfl, rfl⟩) fun _ => Adds.pure _).mono ?_
    rintro sent next ⟨_, _, _, rfl, rfl, _, _, _, rfl, rfl, rfl, rfl⟩
    refine goesOn_of_stage rfl fun result hstage => ?_
    simp at hstage
  | .awaiting (.error (.connection cause)), 0 =>
    exact hstays (goesOn_of_stage rfl fun _ => by simp)
  | .awaiting (.error (.undecodable cause)), left =>
    exact hstays (goesOn_of_stage rfl fun _ => by simp)
  | .awaiting (.ok replies), left => exact hstays (goesOn_of_stage rfl fun _ => by simp)

theorem adds_act (limit : Option Nat) (backoff : Backoff) (now : Nat) (flight : Flight) :
    Adds (flight.act limit backoff now : Activity σ _) flight.GoesOn := by
  unfold act
  split
  · exact adds_advance limit backoff flight
  · refine (Adds.pure flight).mono ?_
    rintro _ _ ⟨rfl, rfl⟩
    exact goesOn_of_stage rfl fun _ => id

end Flight

namespace Dispatch

/-- Parcels under way go on as the same parcels, nothing else is sent, and what they come to is
brought. -/
structure GoOn (flights : List Flight) (sent : List Transmission) (next : List Flight) : Prop where
  parcels_eq : next.map Flight.parcel = flights.map Flight.parcel
  only : ∀ t ∈ sent, t.parcel ∈ flights.map Flight.parcel
  comesFrom : ∀ known, (∀ flight ∈ flights, flight.ComesFrom known) →
    ∀ flight ∈ next, flight.ComesFrom (known ++ sent)

theorem GoOn.refl (flights : List Flight) : GoOn flights [] flights :=
  ⟨rfl, by simp, fun known h => by simpa using h⟩

theorem GoOn.trans {flights middle next : List Flight} {first second : List Transmission}
    (h : GoOn flights first middle) (hnext : GoOn middle second next) :
    GoOn flights (first ++ second) next where
  parcels_eq := hnext.parcels_eq.trans h.parcels_eq
  only := List.forall_mem_append.2 ⟨h.only, h.parcels_eq ▸ hnext.only⟩
  comesFrom known hknown := by
    rw [← List.append_assoc]
    exact hnext.comesFrom _ (h.comesFrom known hknown)

theorem GoOn.cons {flight next : Flight} {flights nexts : List Flight}
    {first second : List Transmission} (h : flight.GoesOn first next)
    (hrest : GoOn flights second nexts) :
    GoOn (flight :: flights) (first ++ second) (next :: nexts) where
  parcels_eq := by simp [h.parcel_eq, hrest.parcels_eq]
  only := by
    refine List.forall_mem_append.2 ⟨fun t ht => ?_, fun t ht => ?_⟩
    · simp [h.only t ht]
    · exact List.mem_cons_of_mem _ (hrest.only t ht)
  comesFrom known hknown := by
    obtain ⟨hflight, hflights⟩ := List.forall_mem_cons.1 hknown
    refine List.forall_mem_cons.2 ⟨?_, fun later hlater => ?_⟩
    · exact (h.comesFrom known hflight).mono (by simp)
    · exact (hrest.comesFrom known hflights later hlater).mono (by grind)

theorem adds_acts (limit : Option Nat) (backoff : Backoff) (now : Nat) (flights : List Flight) :
    Adds (flights.mapM (Flight.act limit backoff now) : Activity σ _) (GoOn flights) := by
  induction flights with
  | nil =>
    refine (Adds.pure []).mono ?_
    rintro _ _ ⟨rfl, rfl⟩
    exact .refl []
  | cons flight rest ih =>
    rw [List.mapM_cons]
    refine (Adds.bind _ (Flight.adds_act limit backoff now flight) fun next =>
      Adds.bind _ ih fun nexts => Adds.pure (next :: nexts)).mono ?_
    rintro sent results ⟨next, first, _, rfl, hnext, nexts, second, _, rfl, hrest, rfl, rfl⟩
    simpa using GoOn.cons hnext hrest

theorem adds_round (limit : Option Nat) (backoff : Backoff) (now : Nat) (flights : List Flight) :
    Adds (round limit backoff now flights : Activity σ _) (GoOn flights) := by
  refine (Adds.bind _ (Adds.idle fun _ => ⟨rfl, rfl⟩) fun _ =>
    adds_acts limit backoff now flights).mono ?_
  rintro _ _ ⟨_, _, sent, rfl, rfl, hgo⟩
  exact hgo

theorem adds_run (limit : Option Nat) (backoff : Backoff) (flights : List Flight) :
    Adds (modifyGet (run limit backoff flights) : Activity σ _) fun sent final =>
      GoOn flights sent final ∧ IsOver final := by
  intro session
  suffices hgo : ∃ sent,
      (run limit backoff flights session).2.history = session.history ++ sent ∧
      (run limit backoff flights session).2.directory = session.directory ∧
        GoOn flights sent (run limit backoff flights session).1 by
    obtain ⟨sent, hhistory, hdirectory, hgo⟩ := hgo
    exact ⟨sent, hhistory, hdirectory, hgo, isOver_run limit backoff flights session⟩
  fun_induction run limit backoff flights session with
  | case1 flights session _ => exact ⟨[], (List.append_nil _).symm, rfl, .refl flights⟩
  | case2 flights session _ _ _ => exact ⟨[], (List.append_nil _).symm, rfl, .refl flights⟩
  | case3 flights session now _ _ next ih =>
    obtain ⟨first, hfirst, hkept, hround⟩ := adds_round limit backoff now flights session
    obtain ⟨second, hsecond, hrestKept, hrest⟩ := ih
    refine ⟨first ++ second, ?_, hrestKept.trans hkept, hround.trans hrest⟩
    rw [hsecond, hfirst, List.append_assoc]

theorem adds_launches (limit : Option Nat) (left : Nat) (parcels : List Parcel) :
    Adds (parcels.mapM (Flight.launch limit left) : Activity σ _) fun sent flights =>
      flights.map Flight.parcel = parcels ∧ (∀ t ∈ sent, t.parcel ∈ parcels) ∧
        ∀ flight ∈ flights, flight.ComesFrom sent := by
  induction parcels with
  | nil =>
    refine (Adds.pure []).mono ?_
    rintro _ _ ⟨rfl, rfl⟩
    simp
  | cons parcel rest ih =>
    rw [List.mapM_cons]
    refine (Adds.bind _ (Flight.adds_launch limit left parcel) fun flight =>
      Adds.bind _ ih fun flights => Adds.pure (flight :: flights)).mono ?_
    rintro sent results ⟨flight, first, _, rfl, ⟨rfl, honly, hflight⟩, flights, second, _, rfl,
      ⟨rfl, hrestOnly, hflights⟩, rfl, rfl⟩
    refine ⟨rfl, ?_, List.forall_mem_cons.2 ⟨hflight.mono (by simp), fun later hlater => ?_⟩⟩
    · grind
    · exact (hflights later hlater).mono (by simp)

theorem brought_of_conclusion {flights : List Flight} {known : List Transmission}
    {lists : List (List Reply)} (hflights : ∀ flight ∈ flights, flight.ComesFrom known)
    (hover : IsOver flights) (h : conclusion flights = .ok lists) :
    List.Forall₂ (BroughtFor known) (flights.map Flight.parcel) lists := by
  have hsettled := settled_of_conclusion hover h
  clear hover h
  induction hsettled with
  | nil => exact .nil
  | cons hstage _ ih =>
    obtain ⟨hflight, hrest⟩ := List.forall_mem_cons.1 hflights
    exact .cons (hflight _ (.inr hstage)) (ih hrest)

theorem adds_together (limit : Option Nat) (backoff : Backoff) (parcels : List Parcel) :
    Adds (together limit backoff parcels : Call σ _).run fun sent result =>
      (∀ t ∈ sent, t.parcel ∈ parcels) ∧
        ∀ lists, result = .ok lists → List.Forall₂ (BroughtFor sent) parcels lists := by
  refine (Adds.bind _ (adds_launches limit _ parcels) fun flights =>
    Adds.map _ (adds_run limit backoff flights)).mono ?_
  rintro sent result ⟨flights, first, second, rfl, ⟨rfl, honly, hflights⟩, final, ⟨hgo, hover⟩, rfl⟩
  refine ⟨List.forall_mem_append.2 ⟨honly, hgo.only⟩, fun lists hlists => ?_⟩
  rw [← hgo.parcels_eq]
  exact brought_of_conclusion (hgo.comesFrom first hflights) hover hlists

end Dispatch

/-- A dispatch sends nothing but its parcels. What it returns was brought. -/
theorem adds_dispatch (limit : Option Nat) (backoff : Backoff) (parcels : List Parcel) :
    Adds (dispatch limit backoff parcels : Call σ _).run fun sent result =>
      (∀ t ∈ sent, t.parcel ∈ parcels) ∧
        ∀ lists, result = .ok lists → List.Forall₂ (BroughtFor sent) parcels lists := by
  match parcels with
  | [] => exact Dispatch.adds_together limit backoff []
  | first :: second :: rest => exact Dispatch.adds_together limit backoff (first :: second :: rest)
  | [parcel] =>
    refine (Adds.mapCall (fun replies => [replies]) (parcel.adds_exchange limit backoff)).mono ?_
    rintro sent result ⟨arrived, ⟨honly, hbrought⟩, rfl⟩
    refine ⟨by simpa using honly, fun lists hlists => ?_⟩
    cases arrived with
    | error e => cases hlists
    | ok replies =>
      cases hlists
      obtain ⟨t, ht, hresult⟩ := hbrought replies rfl
      exact .cons ⟨t, ht, honly t ht, hresult⟩ .nil

end ClusterBatch
