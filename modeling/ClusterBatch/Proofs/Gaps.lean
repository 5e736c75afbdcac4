import ClusterBatch.Proofs.Trails

/-!
# Gaps

A batch that cannot be routed, since a slot is a gap in the current topology, is routed once more
against a newer one, and as a whole: no command keeps a node that was chosen before. If there still
is a gap, the call fails without having sent any command. In no call is there more than one such
search for a newer topology, besides the discovery of the first one.

Main statement: `Client.execute_searches`.
-/

namespace ClusterBatch

variable {σ α : Type} [Network σ]

namespace Discovery

variable {session after : Session σ} {snapshot : Topology}

/-- Rounds of searches publish what one of them finds, and nothing else. -/
theorem epoch_of_refreshRounds {retries left : Nat} {backoff : Backoff}
    (h : (refreshRounds retries backoff left).run.run session = (.ok snapshot, after)) :
    after.directory.current.epoch = session.directory.current.epoch + 1 := by
  have hrefresh {before : Session σ} (h : refresh.run.run before = (.ok snapshot, after)) :
      after.directory.current.epoch = before.directory.current.epoch + 1 := by
    have hrun : (refreshFrom before.directory.candidates).run.run before =
      (.ok snapshot, after) := h
    obtain ⟨_, _, found, -, -, -, -, hdirectory, -⟩ := run_refreshFrom_of_ok hrun
    rw [hdirectory, Directory.epoch_publish]
  induction left generalizing session with
  | zero => exact hrefresh h
  | succ left ih =>
    obtain h | ⟨e, middle, hround, hlater⟩ := Fallible.run_tryCatch_eq_ok.1 h
    · exact hrefresh h
    · let paused := ((Session.pause backoff (retries - (left + 1))).run middle).2
      have hkept : middle.directory = session.directory := directory_of_refresh hround
      have hpaused : paused.directory = session.directory := hkept
      have hrest : (refreshRounds retries backoff left).run.run paused = (.ok snapshot, after) :=
        hlater
      rw [ih hrest, hpaused]

end Discovery

namespace Reason

variable {settings : Settings} {reason : Reason} {before after : Session σ}

theorem epoch_search {result : Except Error Topology}
    (h : (reason.search settings).run.run before = (result, after)) :
    after.directory.current.epoch =
      before.directory.current.epoch + if result.isOk then 1 else 0 := by
  have hrounds {left : Nat} {backoff : Backoff} {retries : Nat}
      (h : (Discovery.refreshRounds retries backoff left).run.run before = (result, after)) :
      after.directory.current.epoch =
        before.directory.current.epoch + if result.isOk then 1 else 0 := by
    cases result with
    | ok snapshot => exact Discovery.epoch_of_refreshRounds h
    | error e => rw [Discovery.directory_of_refreshRounds h]; rfl
  cases reason with
  | undiscovered => exact hrounds h
  | gap slot => exact hrounds h
  | moved =>
    have hround : (Discovery.refreshRounds 0 settings.backoff 0).run.run before = (result, after) :=
      h
    exact hrounds hround

end Reason

namespace Trail

variable {settings : Settings} {hint : Option Hint} {batch : Batch} {parcels : List Parcel}
  {session planned before after : Session σ} {searches : List Search}

/-- As many topologies are published as searches succeed. -/
theorem epoch (h : Trail settings hint batch parcels session searches after) :
    after.directory.current.epoch =
      session.directory.current.epoch + searches.countP (·.result.isOk) := by
  induction h with
  | refl => rfl
  | send _ hdirectory _ _ ih => rw [hdirectory, ih]
  | search _ _ hsearch ih =>
    rw [Reason.epoch_search hsearch, ih, List.countP_append, List.countP_singleton, Nat.add_assoc]

/-! ## Routing -/

/-- The current topology is looked for only if there is none. -/
theorem topology (hint : Option Hint) (batch : Batch) (parcels : List Parcel)
    {result : Except Error Topology}
    (hrun : (Discovery.topology settings).run.run session = (result, after)) :
    ∃ early, Trail settings hint batch parcels session early after ∧
      (early = [] ∨ ∃ found, early = [⟨.undiscovered, found⟩]) := by
  obtain ⟨e, hget, -⟩ | ⟨_, _, hget, hrun⟩ := Fallible.run_bind_cases hrun
  · cases hget
  cases hget
  dsimp only at hrun
  split at hrun
  · next hempty =>
    have hsearch : (Reason.undiscovered.search settings).run.run session = (result, after) := hrun
    exact ⟨[⟨.undiscovered, result⟩], .search .refl hempty hsearch, .inr ⟨result, rfl⟩⟩
  · cases hrun
    exact ⟨[], .refl, .inl rfl⟩

/-- What is known of the searches before a decision about routing. There is at most one because of a
gap. If that finds a topology, the decision is made against it, and fails with a gap only then. -/
structure Plans (searches : List Search) (result : Except Error α) (planned : Session σ) :
    Prop where
  reasons : ∃ slot, (searches.map Search.reason).Sublist [.undiscovered, .gap slot]
  unrouted : ∀ slot, result = .error (.topologyGap slot) → ∃ early first,
    searches = early ++ [⟨.gap first, .ok planned.directory.current⟩] ∧
      (∀ s ∈ early, s.reason = .undiscovered) ∧ planned.directory.current.owner? slot = none
  newest : ∀ first newer, ⟨.gap first, .ok newer⟩ ∈ searches → planned.directory.current = newer

omit [Network σ] in
/-- Nothing is looked for but perhaps the first topology. -/
theorem plans_of_early {early : List Search} {result : Except Error α}
    (hearly : early = [] ∨ ∃ found, early = [⟨.undiscovered, found⟩])
    (hresult : ∀ slot, result ≠ .error (.topologyGap slot)) : Plans early result planned where
  reasons := by
    refine ⟨0, ?_⟩
    obtain rfl | ⟨found, rfl⟩ := hearly <;> simp
  unrouted slot h := absurd h (hresult slot)
  newest first newer hmem := by
    obtain rfl | ⟨found, rfl⟩ := hearly <;> simp at hmem

omit [Network σ] in
/-- A newer topology is looked for because of a gap. -/
theorem plans_of_gap {early : List Search} {slot : Nat} {found : Except Error Topology}
    {result : Except Error α} (hearly : early = [] ∨ ∃ found, early = [⟨.undiscovered, found⟩])
    (hresult : ∀ slot, result = .error (.topologyGap slot) →
      found = .ok planned.directory.current ∧ planned.directory.current.owner? slot = none)
    (hnewer : ∀ newer, found = .ok newer → planned.directory.current = newer) :
    Plans (early ++ [⟨.gap slot, found⟩]) result planned where
  reasons := by
    refine ⟨slot, ?_⟩
    obtain rfl | ⟨found, rfl⟩ := hearly <;> simp
  unrouted other h := by
    obtain ⟨rfl, howner⟩ := hresult other h
    refine ⟨early, slot, rfl, ?_, howner⟩
    obtain rfl | ⟨found, rfl⟩ := hearly <;> simp
  newest first newer hmem := by
    refine hnewer newer ?_
    obtain rfl | ⟨found, rfl⟩ := hearly <;> simp at hmem <;> exact hmem.2.symm

/-- A decision about routing is made against the current topology, and once more against a newer one
if there is a gap. -/
theorem routed (parcels : List Parcel) {decision : Topology → Routing α} {result : Except Error α}
    (hgap : ∀ topology router slot later,
      (decision topology).run.run router = (.error (.topologyGap slot), later) →
        (batch.parcels hint topology).run.run router = (.error (.topologyGap slot), later))
    (hfails : ∀ topology, FailsOnly (Error.IsUnroutedIn topology) (decision topology))
    (hrun : (Discovery.routed settings decision).run.run session = (result, planned)) :
    ∃ searches, Trail settings hint batch parcels session searches planned ∧
      Plans searches result planned := by
  have hdiscovery {e : Error} (h : e.IsDiscovery) (slot : Nat) : e ≠ .topologyGap slot := by
    rintro rfl
    obtain ⟨cause, hcause⟩ := h
    cases hcause
  obtain ⟨e, hfound, rfl⟩ | ⟨current, found, hfound, hrun⟩ := Fallible.run_bind_cases hrun
  · obtain ⟨early, htrail, hearly⟩ := Trail.topology hint batch parcels hfound
    have hcause := Discovery.failsOnly_topology settings _ _ _ hfound
    refine ⟨early, htrail, plans_of_early hearly fun slot h => ?_⟩
    exact hdiscovery hcause slot (by simpa using h)
  obtain ⟨early, htrail, hearly⟩ := Trail.topology hint batch parcels hfound
  have hcurrent := Discovery.run_topology hfound
  obtain ⟨first, later, hdecision, hrouting⟩ : ∃ first later,
      (decision current).run.run found.router = (first, later) ∧
        (Session.routing (decision current)).run.run found =
          (first, { found with router := later }) := ⟨_, _, rfl, rfl⟩
  have htried : Trail settings hint batch parcels session early { found with router := later } :=
    htrail.quiet rfl rfl
  cases first with
  | ok a =>
    rw [Fallible.run_tryCatch_of_ok hrouting] at hrun
    cases hrun
    exact ⟨early, htried, plans_of_early hearly nofun⟩
  | error e =>
    rw [Fallible.run_tryCatch_of_error hrouting] at hrun
    cases e with
    | topologyGap slot =>
      have harises : (Reason.gap slot).Arises hint batch session { found with router := later } :=
        ⟨found.router, later, hcurrent ▸ hgap current found.router slot later hdecision⟩
      obtain ⟨e, hsearch, rfl⟩ | ⟨newer, searched, hsearch, hrun⟩ := Fallible.run_bind_cases hrun
      · have hcause := Discovery.failsOnly_refreshRounds _ _ _ _ _ _ hsearch
        have hlost : (Reason.search settings (.gap slot)).run.run { found with router := later } =
          (.error e, planned) := hsearch
        refine ⟨_, htried.search harises hlost, plans_of_gap hearly ?_ nofun⟩
        exact fun other h => absurd (by simpa using h) (hdiscovery hcause other)
      · have hnewer := Discovery.current_of_refreshRounds hsearch
        have hfound : (Reason.search settings (.gap slot)).run.run { found with router := later } =
          (.ok newer, searched) := hsearch
        rw [Discovery.run_routing] at hrun
        obtain ⟨hagain, rfl⟩ := Prod.mk.inj hrun
        refine ⟨_, (htried.search harises hfound).quiet rfl rfl, plans_of_gap hearly ?_ ?_⟩
        · rintro other rfl
          obtain ⟨cause, hcause⟩ | ⟨_, hother, howner⟩ :=
            hfails newer searched.router _ _ (Prod.ext hagain rfl)
          · cases hcause
          · cases hother
            exact ⟨hnewer ▸ rfl, hnewer ▸ howner⟩
        · rintro _ ⟨⟩
          exact hnewer
    | _ =>
      cases hrun
      exact ⟨early, htried, plans_of_early hearly nofun⟩

end Trail

/-- How a call goes that runs a batch on a cluster. It looks for the first topology if none is
known, for a newer one if the batch cannot be routed, and for another one if a slot has moved, each
at most once. What it sends besides is routed against one topology, or follows redirects. -/
structure Unfolds (settings : Settings) (hint : Option Hint) (batch : Batch) (session : Session σ)
    (result : Except Error (List Outcome)) (final : Session σ) (searches : List Search)
    (parcels : List Parcel) : Prop where
  trail : Trail settings hint batch parcels session searches final
  reasons : ∃ slot, (searches.map Search.reason).Sublist [.undiscovered, .gap slot, .moved]
  epoch : final.directory.current.epoch =
    session.directory.current.epoch + searches.countP (·.result.isOk)
  /-- Nothing is routed, or everything against the topology that was found because of a gap. -/
  routed : parcels = [] ∨ ∃ topology router later,
    (batch.parcels hint topology).run.run router = (.ok parcels, later) ∧
      ∀ first newer, ⟨.gap first, .ok newer⟩ ∈ searches → topology = newer
  /-- A call that fails with a gap has only asked for topologies. The last one was found because of
  a gap, and still has one. -/
  unrouted : ∀ slot, result = .error (.topologyGap slot) →
    (∀ t ∈ session.since final, t.parcel = Discovery.parcel t.node) ∧
      ∃ early first newer, searches = early ++ [⟨.gap first, .ok newer⟩] ∧
        (∀ s ∈ early, s.reason = .undiscovered) ∧ final.directory.current = newer ∧
          newer.owner? slot = none

section Batches

variable {settings : Settings} {hint : Option Hint} {batch : Batch} {session final : Session σ}
  {result : Except Error (List Outcome)}

theorem unfolds_of_quiet (hresult : ∀ slot, result ≠ .error (.topologyGap slot)) :
    Unfolds settings hint batch session result session [] [] where
  trail := .refl
  reasons := ⟨0, List.nil_sublist _⟩
  epoch := rfl
  routed := .inl rfl
  unrouted slot h := absurd h (hresult slot)

omit [Network σ] in
theorem Trail.Spends.sublist {more : List Search} (h : Trail.Spends false true more) :
    (more.map Search.reason).Sublist [.moved] := by
  have hlength : more.length ≤ 1 := by simpa using h.length_le
  match more with
  | [] => simp
  | [only] => simp [h.moved only List.mem_cons_self]
  | first :: second :: rest => simp at hlength

/-- A batch that is routed as a whole and then carried out, which cannot fail with a gap. -/
theorem unfolds_of_routed {decision : Topology → Routing α} {carryOut : α → Call σ (List Outcome)}
    {toParcels : α → List Parcel}
    (hplan : ∀ topology router, (batch.parcels hint topology).run.run router =
      (((decision topology).run.run router).1.map toParcels,
        ((decision topology).run.run router).2))
    (hfails : ∀ topology, FailsOnly (Error.IsUnroutedIn topology) (decision topology))
    (hcarry : ∀ a topology router later planned searches,
      (decision topology).run.run router = (.ok a, later) →
        Trail settings hint batch (toParcels a) session searches planned →
          (carryOut a).run.run planned = (result, final) → ∃ more,
            Trail settings hint batch (toParcels a) session (searches ++ more) final ∧
              Trail.Spends false true more)
    (hanswers : ∀ a, FailsOnly Error.IsUnanswered (carryOut a))
    (hrun : (Discovery.routed settings decision >>= carryOut).run.run session = (result, final)) :
    ∃ searches parcels, Unfolds settings hint batch session result final searches parcels := by
  have hgap : ∀ topology router slot later,
      (decision topology).run.run router = (.error (.topologyGap slot), later) →
        (batch.parcels hint topology).run.run router = (.error (.topologyGap slot), later) := by
    intro topology router slot later h
    rw [hplan, h]
    rfl
  obtain ⟨e, hrouted, rfl⟩ | ⟨a, planned, hrouted, hrun⟩ := Fallible.run_bind_cases hrun
  · obtain ⟨searches, htrail, hplans⟩ := Trail.routed [] hgap hfails hrouted
    obtain ⟨slot, hreasons⟩ := hplans.reasons
    refine ⟨searches, [], htrail, ⟨slot, hreasons.trans (by simp)⟩, htrail.epoch, .inl rfl, ?_⟩
    rintro slot ⟨⟩
    obtain ⟨early, first, hsearches, hearly, howner⟩ := hplans.unrouted slot rfl
    obtain ⟨sent, hhistory, hasked⟩ := Discovery.asks_routed settings decision session
    rw [hrouted] at hhistory
    rw [Session.since_eq hhistory]
    exact ⟨hasked, early, first, _, hsearches, hearly, rfl, howner⟩
  · obtain ⟨searches, htrail, hplans⟩ := Trail.routed (toParcels a) hgap hfails hrouted
    obtain ⟨slot, hreasons⟩ := hplans.reasons
    obtain ⟨router, hdecision⟩ := Discovery.run_routed hrouted
    obtain ⟨more, htrail, hspends⟩ := hcarry a _ _ _ _ _ hdecision htrail hrun
    refine ⟨searches ++ more, toParcels a, htrail, ⟨slot, ?_⟩, htrail.epoch, .inr ?_, ?_⟩
    · rw [List.map_append]
      exact hreasons.append hspends.sublist
    · refine ⟨planned.directory.current, router, planned.router, by rw [hplan, hdecision]; rfl, ?_⟩
      intro first newer hmem
      obtain hmem | hmem := List.mem_append.1 hmem
      · exact hplans.newest first newer hmem
      · cases hspends.moved _ hmem
    · rintro slot rfl
      have hanswer := hanswers a _ _ _ hrun
      simp [Error.IsUnanswered, Error.IsAnswer] at hanswer

/-- A pipeline is routed as a whole. -/
theorem unfolds_of_pipeline {commands : List Command}
    (hrun : (Pipeline.onCluster settings hint commands).run.run session = (result, final)) :
    ∃ searches parcels,
      Unfolds settings hint ⟨false, commands⟩ session result final searches parcels := by
  have hplan (topology : Topology) (router : Router) :
      ((Batch.mk false commands).parcels hint topology).run.run router =
        (((Assignment.ofCommands topology hint commands).run.run router).1.map Assignment.parcels,
          ((Assignment.ofCommands topology hint commands).run.run router).2) :=
    Fallible.run_map _ _ _
  rw [Pipeline.onCluster_eq] at hrun
  refine unfolds_of_routed hplan (fun topology => Assignment.failsOnly_ofCommands topology hint _)
    ?_ ?_ hrun
  · intro assignments topology router later planned searches hassigned htrail hcarry
    have hserves := Assignment.serves_of_ofCommands hassigned
    have hnodup := Assignment.nodup_of_serves hserves
    refine htrail.pipeline rfl hnodup (fun assignment hmem => ?_) hcarry
    obtain ⟨i, hi⟩ := List.mem_iff_getElem?.1 hmem
    obtain ⟨command, hcommand, hserve⟩ := Fallible.exists_getElem?_of_forall₂ hserves.flip hi
    exact hserve.command_eq ▸ List.mem_of_getElem? hcommand
  · exact fun assignments => Pipeline.failsOnly_carryOut settings assignments

omit [Network σ] in
theorem ne_topologyGap_of_commonSlot {commands : List Command} {e : Error}
    (h : Transaction.commonSlot commands = .error e) (slot : Nat) : e ≠ .topologyGap slot := by
  unfold Transaction.commonSlot at h
  split at h
  · cases h
  · split at h <;> cases h
    exact nofun

/-- A transaction is routed as a whole, once its keys are known to share a slot. -/
theorem unfolds_of_transaction {commands : List Command}
    (hrun : (Transaction.onCluster settings hint commands).run.run session = (result, final)) :
    ∃ searches parcels,
      Unfolds settings hint ⟨true, commands⟩ session result final searches parcels := by
  rw [Transaction.onCluster_eq] at hrun
  obtain ⟨e, hslot, rfl⟩ | ⟨slot, _, hslot, hrun⟩ := Fallible.run_bind_cases hrun
  · obtain ⟨hcommon, rfl⟩ := Fallible.run_ofExcept_iff.1 hslot
    refine ⟨[], [], unfolds_of_quiet fun slot h => ?_⟩
    exact ne_topologyGap_of_commonSlot hcommon slot (by simpa using h)
  obtain ⟨hcommon, rfl⟩ := Fallible.run_ofExcept_iff.1 hslot
  have hplan (topology : Topology) (router : Router) :
      ((Batch.mk true commands).parcels hint topology).run.run router =
        (((Transaction.route slot hint topology).run.run router).1.map
            fun node => [Transaction.parcel node commands],
          ((Transaction.route slot hint topology).run.run router).2) := by
    have hparcels : (Batch.mk true commands).parcels hint topology = (do
        let slot ← Transaction.commonSlot commands
        (fun node => [Transaction.parcel node commands]) <$>
          Transaction.route slot hint topology) := by
      simp [Batch.parcels]
    rw [hparcels, hcommon]
    exact Fallible.run_map _ _ _
  refine unfolds_of_routed hplan (Transaction.failsOnly_route slot hint) ?_ ?_ hrun
  · exact fun node _ _ _ _ _ _ htrail hcarry => htrail.transaction rfl hcarry
  · exact fun node => (Transaction.failsOnly_carryOut node).mono fun _ => .inl

end Batches

namespace Client

open Transaction

/-- A call that runs a batch on a cluster looks for a newer topology at most once because of a gap.
If there still is a gap, it fails without having sent any command. Otherwise all that is routed is
routed against what was found. -/
theorem execute_searches {settings : Settings} {hint : Option Hint} {batch : Batch}
    {session final : Session σ} {result : Except Error (List Outcome)}
    (hrun : ((cluster settings).execute batch hint).run.run session = (result, final)) :
    ∃ searches parcels, Unfolds settings hint batch session result final searches parcels := by
  obtain ⟨atomic, commands⟩ := batch
  cases commands with
  | nil =>
    cases hrun
    exact ⟨[], [], unfolds_of_quiet nofun⟩
  | cons command rest =>
    cases atomic with
    | false => exact unfolds_of_pipeline hrun
    | true => exact unfolds_of_transaction hrun

/-- The slot that is a gap, if a call has failed with one. -/
def gap? : Except Error α → Option Nat
  | .error (.topologyGap slot) => some slot
  | _ => none

theorem eq_of_gap? {slot : Nat} {result : Except Error α} (h : gap? result = some slot) :
    result = .error (.topologyGap slot) := by
  unfold gap? at h
  split at h <;> cases h
  rfl

/-- A pipeline whose second command is for a slot that is a gap, also in the newer topology. The
first command could go anywhere. -/
theorem execute_searches_nowhere :
    let node : NodeAddress := ⟨"a", 1⟩
    let slots : Reply := .array [.array [.integer 0, .integer 200,
      .array [.bulk (Bytes.ofAscii "a"), .integer 1]]]
    let session : Session ScriptedCluster :=
      { nodes := ⟨[{ address := node, slots := some slots }]⟩
        directory := { current := ⟨4, [⟨0, 100, node, []⟩]⟩ }
        router := { policy := .primary } }
    let batch : Batch := ⟨false, [⟨"PING", []⟩, ⟨"GET", [.text "a"]⟩]⟩
    let concluded := ((cluster {}).execute batch none).run.run session
    concluded.1 = .error (.topologyGap 15495) ∧ concluded.2.log.length = 1 ∧
      concluded.2.directory.current = ⟨5, [⟨0, 200, node, []⟩]⟩ ∧
      ∃ searches parcels,
        Unfolds {} none batch session concluded.1 concluded.2 searches parcels := by
  intro node slots session batch concluded
  have hrun : ((cluster {}).execute batch none).run.run session = (concluded.1, concluded.2) :=
    (Prod.eta concluded).symm
  have hgap : gap? concluded.1 = some 15495 := by decide +kernel
  exact ⟨eq_of_gap? hgap, by decide +kernel, by decide +kernel, execute_searches hrun⟩

end Client

end ClusterBatch
