import ClusterBatch.Proofs.Compositional
import ClusterBatch.Proofs.Questions

/-!
# Looking for topologies

Looking for a topology sends nothing but the question which node serves which slots. What is found
is the current topology afterwards, and that is the one against which decisions are made.

Main statements: `Discovery.sends_tryRefresh` and `Discovery.run_routed`.
-/

namespace ClusterBatch

variable {σ α : Type}

variable [Network σ]

namespace Discovery

/-- A call asks which node serves which slots, and sends nothing else, whatever becomes of the
connections. -/
def Asks (call : Call σ α) : Prop :=
  ∀ session, ∃ sent, (call.run.run session).2.history = session.history ++ sent ∧
    ∀ t ∈ sent, t.parcel = parcel t.node

/-- A call asks which node serves which slots, and sends nothing else. -/
def OnlyAsks (call : Call σ α) : Prop :=
  Sends call.run fun sent _ => ∀ t ∈ sent, t.parcel = parcel t.node

omit [Network σ] in
theorem Asks.onlyAsks {call : Call σ α} (h : Asks call) : OnlyAsks call := by
  intro session
  obtain ⟨sent, hhistory, hsent⟩ := h session
  exact ⟨sent, hhistory, fun _ => hsent⟩

omit [Network σ] in
/-- Questions go on to be all that is sent from a session that a call leads to. -/
theorem Asks.trans {call : Call σ α} {before middle : Session σ} {first : List Transmission}
    (h : Asks call) (hhistory : middle.history = before.history ++ first)
    (hfirst : ∀ t ∈ first, t.parcel = parcel t.node) :
    ∃ sent, (call.run.run middle).2.history = before.history ++ sent ∧
      ∀ t ∈ sent, t.parcel = parcel t.node := by
  obtain ⟨second, hsecond, hasked⟩ := h middle
  refine ⟨first ++ second, ?_, List.forall_mem_append.2 ⟨hfirst, hasked⟩⟩
  rw [hsecond, hhistory, List.append_assoc]

omit [Network σ] in
theorem compositional_asks : Compositional (σ := σ) fun _ call => Asks call where
  idle h session :=
    ⟨[], by rw [List.append_nil]; exact congrArg List.reverse (h session).2, by simp⟩
  bind {_ _ call next} h hnext session := by
    obtain ⟨first, hfirst, hasked⟩ := h session
    rcases hrun : call.run.run session with ⟨result, middle⟩
    rw [hrun] at hfirst
    cases result with
    | ok a =>
      rw [Fallible.run_bind_of_ok hrun]
      exact (hnext a).trans hfirst hasked
    | error e =>
      rw [Fallible.run_bind_of_error hrun]
      exact ⟨first, hfirst, hasked⟩
  tryCatch {_ call handle} h hhandle session := by
    obtain ⟨first, hfirst, hasked⟩ := h session
    rcases hrun : call.run.run session with ⟨result, middle⟩
    rw [hrun] at hfirst
    cases result with
    | ok a =>
      rw [Fallible.run_tryCatch_of_ok hrun]
      exact ⟨first, hfirst, hasked⟩
    | error e =>
      rw [Fallible.run_tryCatch_of_error hrun]
      exact (hhandle e).trans hfirst hasked

theorem run_refreshFrom (nodes : List NodeAddress) (session : Session σ) :
    (refreshFrom nodes).run.run session =
      if nodes.isEmpty then (.error (.discovery .noSeeds), session)
      else
        let asked := (queryAll session.directory.requestTimeout nodes).run session
        match asked.1 with
        | .ok topology =>
          let directory := asked.2.directory.publish topology
          (.ok directory.current, { asked.2 with directory := directory })
        | .error failures => (.error (.discovery (.noUsableSeed failures)), asked.2) := by
  cases nodes with
  | nil => rfl
  | cons node rest =>
    let nodes := node :: rest
    let ask : Call σ Topology := ExceptT.adapt (fun failures => .discovery (.noUsableSeed failures))
      (ExceptT.mk (queryAll session.directory.requestTimeout nodes))
    have hbind : (refreshFrom nodes).run.run session =
        (ask >>= fun topology => (Session.publish topology : Activity σ _)).run.run session := rfl
    rcases h : (queryAll session.directory.requestTimeout nodes).run session with ⟨answer, after⟩
    cases answer with
    | ok topology =>
      have hask : ask.run.run session = (.ok topology, after) := by
        rw [Fallible.run_adapt, h]
        rfl
      rw [hbind, Fallible.run_bind_of_ok hask]
      rfl
    | error failures =>
      have hask : ask.run.run session = (.error (.discovery (.noUsableSeed failures)), after) := by
        rw [Fallible.run_adapt, h]
        rfl
      rw [hbind, Fallible.run_bind_of_error hask]
      rfl

theorem asks_refresh : Asks (refresh : Call σ _) := by
  intro session
  have hrun : (refresh : Call σ _).run.run session =
    (refreshFrom session.directory.candidates).run.run session := rfl
  rw [hrun, run_refreshFrom]
  split
  · exact ⟨[], (List.append_nil _).symm, by simp⟩
  · rcases hquery : (queryAll session.directory.requestTimeout session.directory.candidates).run
      session with ⟨answer, after⟩
    obtain ⟨sent, hasked, -⟩ := scan_queryAll hquery
    refine ⟨sent, ?_, hasked.parcel_eq⟩
    rw [← hasked.history_eq]
    cases answer <;> rfl

theorem onlyAsks_refresh : OnlyAsks (refresh : Call σ _) := asks_refresh.onlyAsks

/-- Whether a search that need not succeed has found anything is all that is forgotten of it. -/
theorem run_tryRefresh (session : Session σ) :
    (tryRefresh : Call σ _).run.run session =
      (.ok (), ((refresh : Call σ _).run.run session).2) := by
  rcases hfound : (refresh : Call σ _).run.run session with ⟨result, after⟩
  cases result with
  | ok found => exact Fallible.run_tryCatch_of_ok (Fallible.run_bind_of_ok hfound)
  | error e => exact Fallible.run_tryCatch_of_error (Fallible.run_bind_of_error hfound)

/-- A search for a newer topology asks for nothing else, and never fails. -/
theorem sends_tryRefresh : Sends (tryRefresh : Call σ _).run fun sent result =>
    (∀ t ∈ sent, t.parcel = parcel t.node) ∧ result = .ok () := by
  intro session
  obtain ⟨sent, hhistory, hspec⟩ := onlyAsks_refresh session
  rw [run_tryRefresh]
  exact ⟨sent, hhistory, fun hkept => ⟨hspec hkept, rfl⟩⟩

/-- Nothing but questions about the topology is sent to make a decision about routing. -/
theorem asks_routed (settings : Settings) (decision : Topology → Routing α) :
    Asks (routed settings decision : Call σ _) :=
  compositional_asks.routed asks_refresh settings decision

theorem onlyAsks_routed (settings : Settings) (decision : Topology → Routing α) :
    OnlyAsks (routed settings decision : Call σ _) :=
  (asks_routed settings decision).onlyAsks

theorem current_of_refresh {session after : Session σ} {topology : Topology}
    (h : refresh.run.run session = (.ok topology, after)) : after.directory.current = topology := by
  have hrun : (refresh : Call σ _).run.run session =
    (refreshFrom session.directory.candidates).run.run session := rfl
  rw [hrun, run_refreshFrom] at h
  split at h
  · cases h
  · dsimp only at h
    split at h <;> cases h
    rfl

theorem current_of_refreshRounds {retries left : Nat} {backoff : Backoff}
    {session after : Session σ} {topology : Topology}
    (h : (refreshRounds retries backoff left).run.run session = (.ok topology, after)) :
    after.directory.current = topology := by
  induction left generalizing session with
  | zero => exact current_of_refresh h
  | succ left ih =>
    obtain h | ⟨e, middle, -, h⟩ := Fallible.run_tryCatch_eq_ok.1 h
    · exact current_of_refresh h
    · obtain ⟨_, _, -, h⟩ := Fallible.run_bind_eq_ok.1 h
      exact ih h

theorem run_topology {settings : Settings} {session after : Session σ} {found : Topology}
    (h : (topology settings).run.run session = (.ok found, after)) :
    after.directory.current = found := by
  obtain ⟨_, _, hget, h⟩ := Fallible.run_bind_eq_ok.1 h
  cases hget
  dsimp only at h
  split at h
  · exact current_of_refreshRounds h
  · cases h
    rfl

omit [Network σ] in
theorem run_routing (decision : Routing α) (session : Session σ) :
    (Session.routing decision).run.run session =
      ((decision.run.run session.router).1,
        { session with router := (decision.run.run session.router).2 }) := rfl

theorem run_routed_of_current {settings : Settings} {decision : Topology → Routing α}
    {session : Session σ} {a : α} {router : Router} (hcurrent : ¬session.directory.current.isEmpty)
    (hdecision : (decision session.directory.current).run.run session.router = (.ok a, router)) :
    (routed settings decision).run.run session = (.ok a, { session with router := router }) := by
  have hget : (get : Call σ (Session σ)).run.run session = (.ok session, session) := rfl
  have htopology : (topology settings).run.run session =
      (.ok session.directory.current, session) := by
    rw [topology, Fallible.run_bind_of_ok hget, if_neg hcurrent]
    rfl
  have hrouting := run_routing (decision session.directory.current) session
  rw [hdecision] at hrouting
  rw [routed, Fallible.run_bind_of_ok htopology, Fallible.run_tryCatch_of_ok hrouting]

/-- A decision about routing that is made at last was made against the topology that is current
then, and by the router that is there then. -/
theorem run_routed {settings : Settings} {decision : Topology → Routing α}
    {session after : Session σ} {a : α}
    (h : (routed settings decision).run.run session = (.ok a, after)) :
    ∃ router, (decision after.directory.current).run.run router = (.ok a, after.router) := by
  have hrouting {topology : Topology} {before : Session σ}
      (htopology : before.directory.current = topology)
      (h : (Session.routing (decision topology)).run.run before = (.ok a, after)) :
      ∃ router, (decision after.directory.current).run.run router = (.ok a, after.router) := by
    obtain ⟨hdecision, rfl⟩ := Prod.ext_iff.1 (run_routing (decision topology) before ▸ h)
    exact ⟨before.router, Prod.ext (htopology ▸ hdecision) (htopology ▸ rfl)⟩
  obtain ⟨current, planning, hcurrent, h⟩ := Fallible.run_bind_eq_ok.1 h
  obtain h | ⟨e, middle, -, h⟩ := Fallible.run_tryCatch_eq_ok.1 h
  · exact hrouting (run_topology hcurrent) h
  · cases e with
    | topologyGap slot =>
      obtain ⟨newer, found, hnewer, h⟩ := Fallible.run_bind_eq_ok.1 h
      exact hrouting (current_of_refreshRounds hnewer) h
    | _ => cases h

end Discovery

end ClusterBatch
