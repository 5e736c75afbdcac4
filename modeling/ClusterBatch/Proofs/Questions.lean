import ClusterBatch.Discovery
import ClusterBatch.Proofs.Fallible
import ClusterBatch.Proofs.Retries
import Mathlib.Tactic.SplitIfs

/-!
# Questions to nodes

Nodes are asked in turn which node serves which slots, each at most once, and the first one that
provides a topology ends the questions. Whatever else a node does, the next one is asked.

Main statement: `Discovery.scan_queryAll`.
-/

namespace ClusterBatch

namespace Discovery

/-- A node provides a topology: it answered in time with one frame that could be read, and that is
no error but a well-formed list of slot ranges, which is not empty. -/
structure Provides (t : Transmission) (topology : Topology) : Prop where
  answered : ∃ reply, t.result = .ok [reply] ∧ reply.errorMessage? = none ∧
    Topology.ofReply (some t.node.host) reply = .ok topology
  ne_nil : topology.shards ≠ []

/-- A node was asked for the slots and did not provide a topology, for some reason. -/
def Explains (t : Transmission) (failure : NodeAddress × QueryFailure) : Prop :=
  failure.1 = t.node ∧ readAnswer t.node t.result = .error failure.2

theorem Provides.readAnswer_eq {t : Transmission} {topology : Topology} (h : Provides t topology) :
    readAnswer t.node t.result = .ok topology := by
  obtain ⟨⟨reply, hresult, herror, hread⟩, hne⟩ := h
  have hempty : ¬topology.isEmpty := by simpa [Topology.isEmpty] using hne
  rw [hresult]
  simp only [readAnswer, List.headD_cons, herror, hread, hempty]
  rfl

theorem provides_of_readAnswer {t : Transmission} {topology : Topology}
    (hasked : t.parcel = parcel t.node) (h : readAnswer t.node t.result = .ok topology) :
    Provides t topology := by
  cases hresult : t.result with
  | error cause => exact nomatch hresult ▸ h
  | ok replies =>
    have hlength : replies.length = 1 := by
      rw [Transmission.length_of_result hresult, hasked, parcel]
    obtain ⟨reply, rfl⟩ := List.length_eq_one_iff.1 hlength
    rw [hresult, readAnswer, List.headD_cons] at h
    split at h
    · cases h
    · next herror =>
      split at h
      · cases h
      · next read hread =>
        split_ifs at h with hempty
        cases h
        exact ⟨⟨reply, hresult, herror, hread⟩, by simpa [Topology.isEmpty] using hempty⟩

theorem Explains.not_provides {t : Transmission} {failure : NodeAddress × QueryFailure}
    (h : Explains t failure) (topology : Topology) : ¬Provides t topology :=
  fun hprovides => nomatch h.2.symm.trans hprovides.readAnswer_eq

variable {σ : Type} [Network σ] {limit : Option Nat}

/-- Nodes are asked for the slots, one after the other and each once, and nothing else happens:
there is no wait but for the answers. -/
structure Asked (limit : Option Nat) (before : Session σ) (sent : List Transmission)
    (after : Session σ) : Prop where
  parcel_eq : ∀ t ∈ sent, t.parcel = parcel t.node
  history_eq : after.history = before.history ++ sent
  answered : Answered limit before.nodes sent after.nodes
  time_eq : after.time = sent.foldl (fun time t => time + t.arrival.delay) before.time
  directory_eq : after.directory = before.directory
  router_eq : after.router = before.router
  jitter_eq : after.jitter = before.jitter

theorem Asked.nil (session : Session σ) : Asked limit session [] session where
  parcel_eq := nofun
  history_eq := (List.append_nil _).symm
  answered := .nil _
  time_eq := rfl
  directory_eq := rfl
  router_eq := rfl
  jitter_eq := rfl

theorem Asked.cons {session after : Session σ} {node : NodeAddress} {sent : List Transmission}
    (h : Asked limit ((parcel node).attempted limit session) sent after) :
    Asked limit session ((parcel node).transmission limit session :: sent) after where
  parcel_eq := List.forall_mem_cons.2 ⟨rfl, h.parcel_eq⟩
  history_eq := by
    rw [h.history_eq]
    simp [Parcel.attempted, Session.history]
  answered := .cons rfl h.answered
  time_eq := h.time_eq
  directory_eq := h.directory_eq
  router_eq := h.router_eq
  jitter_eq := h.jitter_eq

/-- What becomes of questions to nodes, asked in turn: the first topology ends them, and any failure
leads to the next one. -/
inductive Scan : List NodeAddress → List Transmission →
    Except (List (NodeAddress × QueryFailure)) Topology → Prop
  | exhausted : Scan [] [] (.error [])
  | found {t : Transmission} {rest : List NodeAddress} {topology : Topology}
    (hprovides : Provides t topology) : Scan (t.node :: rest) [t] (.ok topology)
  | failed {t : Transmission} {rest : List NodeAddress} {sent : List Transmission}
    {failure : NodeAddress × QueryFailure}
    {answer : Except (List (NodeAddress × QueryFailure)) Topology}
    (hexplains : Explains t failure) (hrest : Scan rest sent answer) :
    Scan (t.node :: rest) (t :: sent) (answer.mapError (failure :: ·))

theorem scan_queryAll {nodes : List NodeAddress} {session after : Session σ}
    {answer : Except (List (NodeAddress × QueryFailure)) Topology}
    (h : (queryAll limit nodes).run session = (answer, after)) :
    ∃ sent, Asked limit session sent after ∧ Scan nodes sent answer := by
  induction nodes generalizing session after answer with
  | nil =>
    cases h
    exact ⟨[], .nil _, .exhausted⟩
  | cons node rest ih =>
    let t := (parcel node).transmission limit session
    let asked := (parcel node).attempted limit session
    have hquery : (query limit node).run session = (readAnswer node t.result, asked) := by
      rw [query, StateT.run_map, Parcel.run_attempt]
      rfl
    rw [queryAll, StateT.run_bind, hquery] at h
    cases hanswer : readAnswer node t.result with
    | ok topology =>
      rw [hanswer] at h
      cases h
      have hprovides : Provides t topology := provides_of_readAnswer rfl hanswer
      exact ⟨[t], .cons (.nil asked), .found hprovides⟩
    | error failure =>
      rcases hrest : (queryAll limit rest).run asked with ⟨others, final⟩
      obtain ⟨sent, hasked, hscan⟩ := ih hrest
      have hexplains : Explains t (node, failure) := ⟨rfl, hanswer⟩
      rw [hanswer] at h
      change (queryAll limit rest >>= _).run asked = _ at h
      rw [StateT.run_bind, hrest] at h
      cases others <;> cases h <;> exact ⟨t :: sent, .cons hasked, .failed hexplains hscan⟩

/-- The nodes that were asked come first among the candidates, and only the last one of them can
have provided a topology. -/
theorem Scan.cases {nodes : List NodeAddress} {sent : List Transmission}
    {answer : Except (List (NodeAddress × QueryFailure)) Topology} (h : Scan nodes sent answer) :
    (∃ failed t later topology, sent = failed ++ [t] ∧ answer = .ok topology ∧
      nodes = failed.map Transmission.node ++ t.node :: later ∧
      (∀ t ∈ failed, ∀ other, ¬Provides t other) ∧ Provides t topology) ∨
    ∃ failures, answer = .error failures ∧ nodes = sent.map Transmission.node ∧
      (∀ t ∈ sent, ∀ other, ¬Provides t other) ∧ List.Forall₂ Explains sent failures := by
  induction h with
  | exhausted => exact .inr ⟨[], rfl, rfl, nofun, .nil⟩
  | @found t rest topology hprovides =>
    exact .inl ⟨[], t, rest, topology, rfl, rfl, rfl, nofun, hprovides⟩
  | @failed t rest sent failure answer hexplains _ ih =>
    obtain ⟨failed, u, later, topology, rfl, rfl, rfl, hfailed, hprovides⟩ |
      ⟨failures, rfl, rfl, hfailed, hfailures⟩ := ih
    · exact .inl ⟨t :: failed, u, later, topology, rfl, rfl, rfl,
        List.forall_mem_cons.2 ⟨hexplains.not_provides, hfailed⟩, hprovides⟩
    · exact .inr ⟨failure :: failures, rfl, rfl,
        List.forall_mem_cons.2 ⟨hexplains.not_provides, hfailed⟩, .cons hexplains hfailures⟩

end Discovery

end ClusterBatch
