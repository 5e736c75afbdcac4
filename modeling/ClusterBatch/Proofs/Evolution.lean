import ClusterBatch.Proofs.Attempts
import ClusterBatch.Proofs.Searches

/-!
# How sessions evolve

The directory of a session changes at events only: a caller publishes a topology, or nodes are asked
for one and a topology is found. Everything else that a call does leaves the directory as it is,
whatever the nodes answer and however often connections fail.

Main statement: `Client.onlySearches_execute`, running a batch publishes nothing but what searches
find.
-/

namespace ClusterBatch

/-- What may change a directory. -/
inductive Event where
  /-- A caller publishes a topology. -/
  | given (topology : Topology)
  /-- Nodes are asked for a topology; what is found is published. -/
  | searched (nodes : List NodeAddress) (result : Except Error Topology)

namespace Event

def published? : Event → Option Topology
  | .given topology => some topology
  | .searched _ (.ok topology) => some topology
  | .searched _ (.error _) => none

def given? : Event → Option Topology
  | .given topology => some topology
  | .searched _ _ => none

def apply (directory : Directory) (event : Event) : Directory :=
  match event.published? with
  | some topology => directory.publish topology
  | none => directory

theorem epoch_foldl_apply (directory : Directory) (events : List Event) :
    (events.foldl apply directory).current.epoch =
      directory.current.epoch + (events.filterMap published?).length := by
  induction events generalizing directory with
  | nil => rfl
  | cons event rest ih =>
    rw [List.foldl_cons, ih, apply]
    cases hpublished : event.published? with
    | none => rw [List.filterMap_cons_none hpublished]
    | some topology =>
      rw [List.filterMap_cons_some hpublished, List.length_cons]
      dsimp only
      rw [Directory.epoch_publish]
      omega

end Event

variable {σ α β : Type} [Network σ]

/-- One session comes from another by events, in order. In between the directory stays as it is, and
nothing that was sent is forgotten. -/
inductive Evolves : Session σ → List Event → Session σ → Prop
  | refl (session : Session σ) : Evolves session [] session
  | quiet {before middle after : Session σ} {events : List Event}
    (hdirectory : middle.directory = before.directory)
    (hhistory : before.history <+: middle.history) (h : Evolves middle events after) :
    Evolves before events after
  | publish {before after : Session σ} {topology : Topology} {events : List Event}
    (h : Evolves ((Session.publish topology).run before).2 events after) :
    Evolves before (.given topology :: events) after
  | search {before middle after : Session σ} {nodes : List NodeAddress}
    {result : Except Error Topology} {events : List Event}
    (hsearch : (Discovery.refreshFrom nodes).run.run before = (result, middle))
    (h : Evolves middle events after) : Evolves before (.searched nodes result :: events) after

namespace Evolves

variable {before middle after : Session σ} {events more : List Event}

theorem trans (h : Evolves before events middle) (hmore : Evolves middle more after) :
    Evolves before (events ++ more) after := by
  induction h with
  | refl _ => exact hmore
  | quiet hdirectory hhistory _ ih => exact .quiet hdirectory hhistory (ih hmore)
  | publish _ ih => exact .publish (ih hmore)
  | search hsearch _ ih => exact .search hsearch (ih hmore)

/-- Between any two events there is a session. -/
theorem split (h : Evolves before (events ++ more) after) :
    ∃ middle, Evolves before events middle ∧ Evolves middle more after := by
  generalize hall : events ++ more = all at h
  induction h generalizing events with
  | refl session =>
    obtain ⟨rfl, rfl⟩ := List.append_eq_nil_iff.1 hall
    exact ⟨session, .refl session, .refl session⟩
  | quiet hdirectory hhistory _ ih =>
    obtain ⟨middle, hfirst, hsecond⟩ := ih hall
    exact ⟨middle, .quiet hdirectory hhistory hfirst, hsecond⟩
  | @publish before _ topology _ h ih =>
    cases events with
    | nil =>
      obtain rfl : more = _ := hall
      exact ⟨before, .refl before, .publish h⟩
    | cons event rest =>
      obtain ⟨rfl, hrest⟩ := List.cons.inj hall
      obtain ⟨middle, hfirst, hsecond⟩ := ih hrest
      exact ⟨middle, .publish hfirst, hsecond⟩
  | @search before _ _ nodes result _ hsearch h ih =>
    cases events with
    | nil =>
      obtain rfl : more = _ := hall
      exact ⟨before, .refl before, .search hsearch h⟩
    | cons event rest =>
      obtain ⟨rfl, hrest⟩ := List.cons.inj hall
      obtain ⟨middle, hfirst, hsecond⟩ := ih hrest
      exact ⟨middle, .search hsearch hfirst, hsecond⟩

theorem history_of_refreshFrom {nodes : List NodeAddress} {result : Except Error Topology}
    (h : (Discovery.refreshFrom nodes).run.run before = (result, after)) :
    before.history <+: after.history := by
  cases result with
  | ok snapshot =>
    obtain ⟨sent, _, _, hhistory, -⟩ := Discovery.run_refreshFrom_of_ok h
    exact ⟨sent, hhistory.symm⟩
  | error e =>
    obtain ⟨⟨sent, hhistory⟩, -⟩ := Discovery.run_refreshFrom_of_error h
    exact ⟨sent, hhistory.symm⟩

theorem history (h : Evolves before events after) : before.history <+: after.history := by
  induction h with
  | refl _ => exact List.prefix_rfl
  | quiet _ hhistory _ ih => exact hhistory.trans ih
  | publish _ ih => exact ih
  | search hsearch _ ih => exact (history_of_refreshFrom hsearch).trans ih

theorem directory_of_refreshFrom {nodes : List NodeAddress} {result : Except Error Topology}
    (h : (Discovery.refreshFrom nodes).run.run before = (result, after)) :
    after.directory = (Event.searched nodes result).apply before.directory := by
  cases result with
  | ok snapshot =>
    obtain ⟨_, _, found, -, -, -, -, hdirectory, rfl⟩ := Discovery.run_refreshFrom_of_ok h
    rw [hdirectory]
    rfl
  | error e => exact (Discovery.run_refreshFrom_of_error h).2

/-- The directory after is the one that the events make of the one before. -/
theorem directory (h : Evolves before events after) :
    after.directory = events.foldl Event.apply before.directory := by
  induction h with
  | refl _ => rfl
  | quiet hdirectory _ _ ih => rw [ih, hdirectory]
  | publish _ ih => exact ih
  | search hsearch _ ih => rw [ih, directory_of_refreshFrom hsearch, List.foldl_cons]

/-- What a search has found is what one of the nodes answered. -/
theorem found {nodes : List NodeAddress} {snapshot : Topology} (h : Evolves before events after)
    (hevent : .searched nodes (.ok snapshot) ∈ events) :
    ∃ t ∈ after.history, t.node ∈ nodes ∧ Discovery.FoundIn t snapshot.shards := by
  induction h with
  | refl _ => cases hevent
  | quiet _ _ _ ih => exact ih hevent
  | publish _ ih =>
    obtain hevent | hevent := List.mem_cons.1 hevent
    · cases hevent
    · exact ih hevent
  | search hsearch hlater ih =>
    obtain hevent | hevent := List.mem_cons.1 hevent
    · cases hevent
      obtain ⟨sent, t, found, hhistory, ht, hnode, hfound, hdirectory, rfl⟩ :=
        Discovery.run_refreshFrom_of_ok hsearch
      have hmem := hlater.history.subset (hhistory ▸ List.mem_append_right _ ht)
      refine ⟨t, hmem, hnode, ?_⟩
      rw [hdirectory, Directory.shards_publish]
      exact hfound
    · exact ih hevent

end Evolves

/-- All that an activity publishes is what searches find. -/
def OnlySearches (activity : Activity σ α) : Prop :=
  ∀ session, ∃ events, Evolves session events (activity.run session).2 ∧
    events.filterMap Event.given? = []

namespace OnlySearches

variable {activity : Activity σ α} {call : Call σ α}

theorem quiet (h : ∀ session, (activity.run session).2.directory = session.directory ∧
    session.history <+: (activity.run session).2.history) : OnlySearches activity :=
  fun session => ⟨[], .quiet (h session).1 (h session).2 (.refl _), rfl⟩

/-- What holds of an activity that neither sends nor publishes anything. -/
theorem idle (h : ∀ session, (activity.run session).2.directory = session.directory ∧
    (activity.run session).2.log = session.log) : OnlySearches activity := by
  refine quiet fun session => ⟨(h session).1, ?_⟩
  have hhistory : (activity.run session).2.history = session.history :=
    congrArg List.reverse (h session).2
  exact hhistory ▸ List.prefix_rfl

/-- What holds of an activity that may send something but publishes nothing. -/
theorem of_adds {spec : List Transmission → α → Prop} (h : Adds activity spec) :
    OnlySearches activity := by
  refine quiet fun session => ?_
  obtain ⟨sent, hhistory, hdirectory, -⟩ := h session
  exact ⟨hdirectory, sent, hhistory.symm⟩

theorem pure (a : α) : OnlySearches (Pure.pure a : Activity σ α) := idle fun _ => ⟨rfl, rfl⟩

theorem bind {next : α → Activity σ β} (h : OnlySearches activity)
    (hnext : ∀ a, OnlySearches (next a)) : OnlySearches (activity >>= next) := by
  intro session
  obtain ⟨events, hevents, hgiven⟩ := h session
  obtain ⟨more, hmore, hmoreGiven⟩ :=
    hnext (activity.run session).1 (activity.run session).2
  exact ⟨events ++ more, hevents.trans hmore, by simp [hgiven, hmoreGiven]⟩

theorem bindCall {next : α → Call σ β} (h : OnlySearches call.run)
    (hnext : ∀ a, OnlySearches (next a).run) : OnlySearches (call >>= next).run := by
  have hafter (result : Except Error α) : OnlySearches (ExceptT.bindCont next result) := by
    cases result with
    | ok a => exact hnext a
    | error e => exact pure _
  exact h.bind hafter

theorem tryCatchCall {handle : Error → Call σ α} (h : OnlySearches call.run)
    (hhandle : ∀ e, OnlySearches (handle e).run) : OnlySearches (tryCatch call handle).run := by
  rw [ExceptT.run_tryCatch]
  refine h.bind fun result => ?_
  cases result with
  | ok a => exact pure _
  | error e => exact hhandle e

end OnlySearches

theorem compositional_onlySearches :
    Compositional (σ := σ) fun _ call => OnlySearches call.run where
  idle := OnlySearches.idle
  bind := OnlySearches.bindCall
  tryCatch := OnlySearches.tryCatchCall

theorem Discovery.onlySearches_refreshFrom (nodes : List NodeAddress) :
    OnlySearches (refreshFrom nodes : Call σ _).run :=
  fun _ => ⟨[.searched nodes _], .search rfl (.refl _), rfl⟩

theorem Discovery.onlySearches_refresh : OnlySearches (refresh : Call σ _).run :=
  fun session => onlySearches_refreshFrom session.directory.candidates session

/-- Running a batch publishes nothing but what searches find. -/
theorem Client.onlySearches_execute (client : Client) (batch : Batch) (hint : Option Hint) :
    OnlySearches (client.execute batch hint : Call σ _).run :=
  compositional_onlySearches.execute Discovery.onlySearches_refresh
    (fun limit backoff parcel => .of_adds (parcel.adds_exchange limit backoff))
    (fun limit backoff parcels => .of_adds (adds_dispatch limit backoff parcels)) client batch hint

end ClusterBatch
