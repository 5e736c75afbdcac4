import ClusterBatch.Proofs.Refreshing

/-!
# Rounds of questions

A search asks one candidate after the other until one provides a topology, and fails only if there
is none left. Searches are repeated in rounds, with one wait between two of them, until one finds
something or enough have been made.

Main statements: `Discovery.round_refresh` for one round, `Discovery.refreshWithRetry_rounds`.
-/

namespace ClusterBatch

namespace Directory

/-- The candidates are the primaries in the order of their slots, then the other nodes, then the
other seeds, and none of them is listed twice. -/
theorem listsOnce_candidates (directory : Directory) :
    ListsOnce (directory.current.shards.map Shard.primary ++
        directory.current.shards.flatMap Shard.replicas ++ directory.seeds)
      directory.candidates := by
  rw [candidates, Topology.nodes, distinct_distinct_append]
  exact listsOnce_distinct _

end Directory

namespace Discovery

variable {σ : Type} [Network σ]

/-- Why a round has not found anything. -/
inductive Accounts : List Transmission → DiscoveryError → Prop
  | noSeeds : Accounts [] .noSeeds
  | noUsableSeed {sent : List Transmission} {failures : List (NodeAddress × QueryFailure)}
    (hne : sent ≠ []) (hfailures : List.Forall₂ Explains sent failures) :
    Accounts sent (.noUsableSeed failures)

/-- What a round over all candidates of a directory comes to. It returns and publishes the shards
that the last node to be asked has provided, with the next epoch, and leaves the rest of the
directory as it is; or all candidates were asked and none has provided any. -/
inductive Concludes (directory : Directory) :
    List Transmission → Except Error Topology → Directory → Prop
  | found {failed : List Transmission} {t : Transmission} {topology published : Topology}
    {later : Directory} (hfailed : ∀ t ∈ failed, ∀ other, ¬Provides t other)
    (hprovides : Provides t topology) (hshards : published.shards = topology.shards)
    (hepoch : published.epoch = directory.current.epoch + 1)
    (hlater : later = { directory with current := published }) :
    Concludes directory (failed ++ [t]) (.ok published) later
  | failed {sent : List Transmission} {cause : DiscoveryError}
    (hall : sent.map Transmission.node = directory.candidates)
    (hfailed : ∀ t ∈ sent, ∀ other, ¬Provides t other) (hcause : Accounts sent cause) :
    Concludes directory sent (.error (.discovery cause)) directory

theorem Concludes.directory_of_error {directory later : Directory} {sent : List Transmission}
    {e : Error} (h : Concludes directory sent (.error e) later) : later = directory := by
  cases h
  rfl

/-- A round fails if and only if there is no candidate or every candidate fails. -/
theorem Concludes.error_iff {directory later : Directory} {sent : List Transmission}
    {result : Except Error Topology} (h : Concludes directory sent result later) :
    (∃ e, result = .error e) ↔
      sent.map Transmission.node = directory.candidates ∧
        ∀ t ∈ sent, ∀ topology, ¬Provides t topology := by
  cases h with
  | @found failed t topology _ _ hfailed hprovides =>
    constructor
    · exact nofun
    · rintro ⟨-, hnone⟩
      exact absurd hprovides (hnone t List.mem_concat_self topology)
  | failed hall hfailed hcause => exact ⟨fun _ => ⟨hall, hfailed⟩, fun _ => ⟨_, rfl⟩⟩

/-- One round of questions, to candidates in their order, each by a frame of one request. -/
structure Round (before : Session σ) (sent : List Transmission) (result : Except Error Topology)
    (after : Session σ) : Prop where
  parcels : sent.map Transmission.parcel <+:
    before.directory.candidates.map fun node => ⟨node, Request.clusterSlots.encode, 1⟩
  history_eq : after.history = before.history ++ sent
  answered : Answered before.directory.requestTimeout before.nodes sent after.nodes
  time_eq : after.time = sent.foldl (fun time t => time + t.arrival.delay) before.time
  router_eq : after.router = before.router
  jitter_eq : after.jitter = before.jitter
  concludes : Concludes before.directory sent result after.directory

theorem Asked.round {before asked : Session σ} {sent : List Transmission} {directory : Directory}
    {result : Except Error Topology}
    (h : Asked before.directory.requestTimeout before sent asked)
    (hnodes : sent.map Transmission.node <+: before.directory.candidates)
    (hconcludes : Concludes before.directory sent result directory) :
    Round before sent result { asked with directory := directory } where
  parcels := by
    have hparcels : sent.map Transmission.parcel = (sent.map Transmission.node).map parcel := by
      rw [List.map_map]
      exact List.map_congr_left h.parcel_eq
    rw [hparcels]
    exact hnodes.map parcel
  history_eq := h.history_eq
  answered := h.answered
  time_eq := h.time_eq
  router_eq := h.router_eq
  jitter_eq := h.jitter_eq
  concludes := hconcludes

theorem round_refresh {before after : Session σ} {result : Except Error Topology}
    (h : refresh.run.run before = (result, after)) : ∃ sent, Round before sent result after := by
  let candidates := before.directory.candidates
  have hrun : (refreshFrom candidates).run.run before = (result, after) := h
  rw [run_refreshFrom] at hrun
  rcases hquery : (queryAll before.directory.requestTimeout candidates).run before with
    ⟨answer, asked⟩
  rw [hquery] at hrun
  obtain ⟨sent, hasked, hscan⟩ := scan_queryAll hquery
  obtain ⟨failed, t, later, topology, rfl, rfl, hnodes, hfailed, hprovides⟩ |
    ⟨failures, rfl, hnodes, hfailed, hfailures⟩ := hscan.cases
  · have hne : ¬candidates.isEmpty := by simp [hnodes]
    have hprefix : (failed ++ [t]).map Transmission.node <+: candidates := by simp [hnodes]
    have hround := hasked.round hprefix (.found hfailed hprovides
      (Directory.shards_publish topology before.directory)
      (Directory.epoch_publish topology before.directory) rfl)
    rw [if_neg hne] at hrun
    cases hrun
    rw [← hasked.directory_eq] at hround
    exact ⟨_, hround⟩
  · by_cases hempty : candidates.isEmpty
    · have hnone : candidates = [] := List.isEmpty_iff.1 hempty
      rw [if_pos hempty] at hrun
      cases hrun
      exact ⟨[], (Asked.nil before).round (List.nil_prefix ..) (.failed hnone.symm nofun .noSeeds)⟩
    · have hne : sent ≠ [] := by
        rintro rfl
        exact hempty (by simp [hnodes])
      have hround := hasked.round (hnodes ▸ List.prefix_refl _)
        (.failed hnodes.symm hfailed (.noUsableSeed hne hfailures))
      rw [if_neg hempty] at hrun
      cases hrun
      rw [← hasked.directory_eq] at hround
      exact ⟨sent, hround⟩

variable {before middle after : Session σ} {sent : List Transmission}
  {result : Except Error Topology}

theorem Round.length_le (h : Round before sent result after) :
    sent.length ≤ before.directory.candidates.length := by
  simpa using h.parcels.length_le

/-- Rounds from round number `k` on, counted from zero. A round that fails is followed by a wait and
by another round, unless as many have been repeated as allowed. -/
inductive Rounds (backoff : Backoff) (retries : Nat) : Nat → Session σ →
    List (List Transmission) → Except Error Topology → Session σ → Prop
  | found {k : Nat} {before after : Session σ} {sent : List Transmission} {topology : Topology}
    (hround : Round before sent (.ok topology) after) :
    Rounds backoff retries k before [sent] (.ok topology) after
  | exhausted {before after : Session σ} {sent : List Transmission} {e : Error}
    (hround : Round before sent (.error e) after) :
    Rounds backoff retries retries before [sent] (.error e) after
  | again {k : Nat} {before middle after : Session σ} {sent : List Transmission} {e : Error}
    {later : List (List Transmission)} {result : Except Error Topology} (hlt : k < retries)
    (hround : Round before sent (.error e) middle)
    (hlater : Rounds backoff retries (k + 1) (Parcel.rested backoff k middle) later result after) :
    Rounds backoff retries k before (sent :: later) result after

/-- What is left to be repeated is counted down, and rounds are counted up. -/
theorem rounds_refreshRounds {backoff : Backoff} {retries k left : Nat} (hleft : k + left = retries)
    (h : (refreshRounds retries backoff left).run.run before = (result, after)) :
    ∃ rounds, Rounds backoff retries k before rounds result after := by
  induction left generalizing k before with
  | zero =>
    obtain rfl : k = retries := hleft
    obtain ⟨sent, hround⟩ := round_refresh h
    cases result with
    | ok topology => exact ⟨[sent], .found hround⟩
    | error e => exact ⟨[sent], .exhausted hround⟩
  | succ left ih =>
    rcases hrefresh : (refresh : Call σ _).run.run before with ⟨first, middle⟩
    obtain ⟨sent, hround⟩ := round_refresh hrefresh
    cases first with
    | ok topology =>
      cases (Fallible.run_tryCatch_of_ok hrefresh).symm.trans h
      exact ⟨[sent], .found hround⟩
    | error e =>
      have hk : retries - (left + 1) = k := by omega
      have hcaught : (refreshRounds retries backoff (left + 1)).run.run before = _ :=
        Fallible.run_tryCatch_of_error hrefresh
      rw [hcaught, hk] at h
      have hlater : (refreshRounds retries backoff left).run.run
          (Parcel.rested backoff k middle) = (result, after) := h
      obtain ⟨later, hrounds⟩ := ih (k := k + 1) (by omega) hlater
      exact ⟨sent :: later, .again (by omega) hround hrounds⟩

theorem Rounds.length_le {backoff : Backoff} {retries k : Nat} {rounds : List (List Transmission)}
    (h : Rounds backoff retries k before rounds result after) (hk : k ≤ retries) :
    k + rounds.length ≤ retries + 1 := by
  induction h with
  | found => exact Nat.succ_le_succ hk
  | exhausted => exact Nat.le_refl _
  | again hlt _ _ ih =>
    have hlater := ih hlt
    rw [List.length_cons]
    omega

/-- The directory stays the same until something is found, and so do the candidates. -/
theorem Rounds.length_flatten_le {backoff : Backoff} {retries k : Nat}
    {rounds : List (List Transmission)} (h : Rounds backoff retries k before rounds result after) :
    rounds.flatten.length ≤ rounds.length * before.directory.candidates.length := by
  induction h with
  | found hround => simpa using hround.length_le
  | exhausted hround => simpa using hround.length_le
  | again _ hround _ ih =>
    rw [Parcel.rested, hround.concludes.directory_of_error] at ih
    have hlength := hround.length_le
    rw [List.flatten_cons, List.length_append, List.length_cons, Nat.succ_mul]
    omega

theorem Rounds.history_eq {backoff : Backoff} {retries k : Nat}
    {rounds : List (List Transmission)}
    (h : Rounds backoff retries k before rounds result after) :
    after.history = before.history ++ rounds.flatten := by
  induction h with
  | found hround => simpa using hround.history_eq
  | exhausted hround => simpa using hround.history_eq
  | again _ hround _ ih =>
    rw [ih, List.flatten_cons, ← List.append_assoc, ← hround.history_eq]
    rfl

/-- A search asks the nodes of the current topology, primaries first, and then the other seeds, each
at most once and in this order, and publishes and returns the first topology that one of them
provides, with the next epoch. It fails if and only if there is nobody to ask or everybody who was
asked failed, whatever the reasons. Searches are repeated until one finds something, at most as
often as allowed, with one wait between two of them. -/
theorem refreshWithRetry_rounds (session : Session σ) (retries : Nat) (backoff : Backoff) :
    let candidates := session.directory.candidates
    ListsOnce (session.directory.current.shards.map Shard.primary ++
        session.directory.current.shards.flatMap Shard.replicas ++ session.directory.seeds)
      candidates ∧
    (let round := (refresh : Call σ _).run.run session
      ∃ sent, Round session sent round.1 round.2 ∧
        ((∃ e, round.1 = .error e) ↔ sent.map Transmission.node = candidates ∧
          ∀ t ∈ sent, ∀ topology, ¬Provides t topology)) ∧
    (let search := (refreshWithRetry retries backoff : Call σ _).run.run session
      ∃ rounds, Rounds backoff retries 0 session rounds search.1 search.2 ∧
        search.2.history = session.history ++ rounds.flatten ∧
        rounds.length ≤ retries + 1 ∧
        rounds.flatten.length ≤ (retries + 1) * candidates.length) := by
  refine ⟨session.directory.listsOnce_candidates, ?_, ?_⟩
  · intro round
    have hrun : refresh.run.run session = (round.1, round.2) := rfl
    obtain ⟨sent, hround⟩ := round_refresh hrun
    exact ⟨sent, hround, hround.concludes.error_iff⟩
  · intro search
    have hrun : (refreshRounds retries backoff retries).run.run session =
      (search.1, search.2) := rfl
    obtain ⟨rounds, hrounds⟩ := rounds_refreshRounds (Nat.zero_add retries) hrun
    have hlength := hrounds.length_le (Nat.zero_le _)
    rw [Nat.zero_add] at hlength
    exact ⟨rounds, hrounds, hrounds.history_eq, hlength,
      Nat.le_trans hrounds.length_flatten_le (Nat.mul_le_mul_right _ hlength)⟩

end Discovery

end ClusterBatch
