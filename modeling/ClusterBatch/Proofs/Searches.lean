import ClusterBatch.Proofs.SearchRounds
import ClusterBatch.Proofs.SlotsReplies

/-!
# What searches find

A search for a newer topology asks nodes in turn. What it finds is what one of them answered, and is
published once. A search that finds nothing leaves the directory as it was.

Main statements: `Discovery.run_refreshFrom_of_ok`, `Discovery.directory_of_refreshRounds` and
`Discovery.run_routed_of_error`.
-/

namespace ClusterBatch

namespace Discovery

/-- Shards were found in what one node answered to the question which node serves which slots. -/
structure FoundIn (t : Transmission) (shards : List Shard) : Prop where
  asked : t.parcel = parcel t.node
  answered : ∃ reply read, t.result = .ok [reply] ∧
    Topology.ofReply (some t.node.host) reply = .ok read ∧ read.shards = shards
  ne_nil : shards ≠ []

/-- What was found is sorted, and no two shards share a slot. -/
theorem FoundIn.isOrderly {t : Transmission} {topology : Topology}
    (h : FoundIn t topology.shards) : topology.IsOrderly := by
  obtain ⟨reply, read, -, hread, hshards⟩ := h.answered
  exact (Topology.isOrderly_of_ofReply hread).of_shards_eq hshards.symm

theorem Provides.foundIn {t : Transmission} {topology : Topology} (h : Provides t topology)
    (hasked : t.parcel = parcel t.node) : FoundIn t topology.shards := by
  obtain ⟨reply, hresult, -, hread⟩ := h.answered
  exact ⟨hasked, ⟨reply, topology, hresult, hread, rfl⟩, h.ne_nil⟩

variable {σ : Type} [Network σ]

/-- Nodes that are asked leave the directory alone. What is found is what one of them answered. -/
theorem run_queryAll (limit : Option Nat) (nodes : List NodeAddress) (session : Session σ) :
    ∃ sent answer after, (queryAll limit nodes).run session = (answer, after) ∧
      after.history = session.history ++ sent ∧ after.directory = session.directory ∧
      ∀ topology, answer = .ok topology →
        ∃ t ∈ sent, t.node ∈ nodes ∧ FoundIn t topology.shards := by
  rcases hrun : (queryAll limit nodes).run session with ⟨answer, after⟩
  obtain ⟨sent, hasked, hscan⟩ := scan_queryAll hrun
  refine ⟨sent, answer, after, rfl, hasked.history_eq, hasked.directory_eq, ?_⟩
  rintro topology rfl
  obtain ⟨failed, t, later, _, rfl, ⟨⟩, rfl, -, hprovides⟩ | ⟨_, ⟨⟩, -⟩ := hscan.cases
  have ht : t ∈ failed ++ [t] := List.mem_concat_self
  exact ⟨t, ht, by simp, hprovides.foundIn (hasked.parcel_eq t ht)⟩

variable {session after : Session σ} {nodes : List NodeAddress} {snapshot : Topology} {e : Error}

/-- What a search finds is published, and it is what one of the nodes answered. -/
theorem run_refreshFrom_of_ok (h : (refreshFrom nodes).run.run session = (.ok snapshot, after)) :
    ∃ sent t found, after.history = session.history ++ sent ∧ t ∈ sent ∧ t.node ∈ nodes ∧
      FoundIn t found.shards ∧ after.directory = session.directory.publish found ∧
      snapshot = after.directory.current := by
  obtain ⟨sent, answer, asked, hrun, hhistory, hdirectory, hfound⟩ :=
    run_queryAll session.directory.requestTimeout nodes session
  rw [run_refreshFrom, hrun] at h
  split at h
  · cases h
  · cases answer with
    | error failures => cases h
    | ok topology =>
      cases h
      obtain ⟨t, ht, hnode, hfoundIn⟩ := hfound topology rfl
      exact ⟨sent, t, topology, hhistory, ht, hnode, hfoundIn, hdirectory ▸ rfl, rfl⟩

/-- A search that finds nothing leaves the directory as it was. -/
theorem run_refreshFrom_of_error (h : (refreshFrom nodes).run.run session = (.error e, after)) :
    (∃ sent, after.history = session.history ++ sent) ∧ after.directory = session.directory := by
  obtain ⟨sent, answer, asked, hrun, hhistory, hdirectory, -⟩ :=
    run_queryAll session.directory.requestTimeout nodes session
  rw [run_refreshFrom, hrun] at h
  split at h
  · cases h
    exact ⟨⟨[], (List.append_nil _).symm⟩, rfl⟩
  · cases answer with
    | ok topology => cases h
    | error failures =>
      cases h
      exact ⟨⟨sent, hhistory⟩, hdirectory⟩

theorem directory_of_refresh (h : refresh.run.run session = (.error e, after)) :
    after.directory = session.directory := by
  have hrun : (refreshFrom session.directory.candidates).run.run session = (.error e, after) := h
  exact (run_refreshFrom_of_error hrun).2

/-- Rounds of searches of which none finds anything leave the directory as it was. -/
theorem directory_of_refreshRounds {retries left : Nat} {backoff : Backoff}
    (h : (refreshRounds retries backoff left).run.run session = (.error e, after)) :
    after.directory = session.directory := by
  induction left generalizing session with
  | zero => exact directory_of_refresh h
  | succ left ih =>
    obtain ⟨cause, middle, hround, hlater⟩ := Fallible.run_tryCatch_eq_error.1 h
    let paused := ((Session.pause backoff (retries - (left + 1))).run middle).2
    have hpaused : paused.directory = middle.directory := rfl
    have hrest : (refreshRounds retries backoff left).run.run paused = (.error e, after) := hlater
    exact (ih hrest).trans (hpaused.trans (directory_of_refresh hround))

theorem isEmpty_of_topology {settings : Settings}
    (h : (topology settings).run.run session = (.error e, after)) :
    after.directory.current.isEmpty := by
  obtain h | ⟨_, _, hget, h⟩ := Fallible.run_bind_eq_error.1 h
  · cases h
  cases hget
  dsimp only at h
  split at h
  · next hempty =>
    rw [directory_of_refreshRounds h]
    exact hempty
  · cases h

/-- A decision about routing that is not made cannot be made against the topology that is current
then. -/
theorem run_routed_of_error {α : Type} {settings : Settings} {decision : Topology → Routing α}
    (h : (routed settings decision).run.run session = (.error e, after)) :
    after.directory.current.isEmpty ∨ ∃ router cause later,
      (decision after.directory.current).run.run router = (.error cause, later) := by
  have hrouting {topology : Topology} {before middle : Session σ} {cause : Error}
      (htopology : before.directory.current = topology)
      (h : (Session.routing (decision topology)).run.run before = (.error cause, middle)) :
      middle.directory = before.directory ∧ ∃ later,
        (decision before.directory.current).run.run before.router = (.error cause, later) := by
    obtain ⟨hdecision, rfl⟩ := Prod.ext_iff.1 (run_routing (decision topology) before ▸ h)
    exact ⟨rfl, _, Prod.ext (htopology ▸ hdecision) rfl⟩
  obtain h | ⟨current, planning, hcurrent, h⟩ := Fallible.run_bind_eq_error.1 h
  · exact .inl (isEmpty_of_topology h)
  obtain ⟨cause, middle, hfirst, h⟩ := Fallible.run_tryCatch_eq_error.1 h
  obtain ⟨hkept, later, hdecision⟩ := hrouting (run_topology hcurrent) hfirst
  rw [← hkept] at hdecision
  cases cause with
  | topologyGap slot =>
    obtain h | ⟨newer, found, hnewer, h⟩ := Fallible.run_bind_eq_error.1 h
    · rw [directory_of_refreshRounds h]
      exact .inr ⟨_, _, _, hdecision⟩
    · obtain ⟨hfound, later, hagain⟩ := hrouting (current_of_refreshRounds hnewer) h
      rw [← hfound] at hagain
      exact .inr ⟨_, _, _, hagain⟩
  | _ =>
    cases h
    exact .inr ⟨_, _, _, hdecision⟩

end Discovery

end ClusterBatch
