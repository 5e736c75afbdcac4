import ClusterBatch.Proofs.Evolution
import ClusterBatch.ScriptedCluster

/-!
# Histories of directories

What callers ask of a client, one thing after the other, from a new directory on. At every point of
such a run the epoch says how many topologies have been published so far, and each of them was given
by a caller or is what one node answered.

Main statement: `Directive.performAll_evolves`.
-/

namespace ClusterBatch

inductive Directive where
  | publish (topology : Topology)
  | refresh
  | refreshFrom (nodes : List NodeAddress)
  | refreshWithRetry (retries : Nat) (backoff : Backoff)
  | execute (client : Client) (batch : Batch) (hint : Option Hint)

namespace Directive

variable {σ : Type} [Network σ]

def perform : Directive → Call σ Unit
  | .publish topology => discard (Session.publish topology : Activity σ Topology)
  | .refresh => discard Discovery.refresh
  | .refreshFrom nodes => discard (Discovery.refreshFrom nodes)
  | .refreshWithRetry retries backoff => discard (Discovery.refreshWithRetry retries backoff)
  | .execute client batch hint => discard (client.execute batch hint)

def performAll (directives : List Directive) (session : Session σ) : Session σ :=
  directives.foldl (fun session directive => (directive.perform.run.run session).2) session

def given? : Directive → Option Topology
  | .publish topology => some topology
  | _ => none

def IsRefresh : Directive → Prop
  | .publish _ => False
  | .execute _ _ _ => False
  | _ => True

theorem onlySearches_discard {α : Type} {call : Call σ α} (h : OnlySearches call.run) :
    OnlySearches (discard call : Call σ Unit).run :=
  h.bindCall fun _ => .pure _

theorem evolves_perform (directive : Directive) (session : Session σ) :
    ∃ events, Evolves session events (directive.perform.run.run session).2 ∧
      events.filterMap Event.given? = directive.given?.toList := by
  cases directive with
  | publish topology => exact ⟨[.given topology], .publish (.refl _), rfl⟩
  | refresh => exact onlySearches_discard Discovery.onlySearches_refresh session
  | refreshFrom nodes =>
    exact onlySearches_discard (Discovery.onlySearches_refreshFrom nodes) session
  | refreshWithRetry retries backoff =>
    have hrounds := compositional_onlySearches.refreshRounds (σ := σ) Discovery.onlySearches_refresh
    exact onlySearches_discard (hrounds retries backoff retries) session
  | execute client batch hint =>
    exact onlySearches_discard (client.onlySearches_execute batch hint) session

theorem evolves_performAll (directives : List Directive) (session : Session σ) :
    ∃ events, Evolves session events (performAll directives session) ∧
      events.filterMap Event.given? = directives.filterMap given? := by
  induction directives generalizing session with
  | nil => exact ⟨[], .refl session, rfl⟩
  | cons directive rest ih =>
    obtain ⟨events, hevents, hgiven⟩ := evolves_perform directive session
    obtain ⟨more, hmore, hmoreGiven⟩ := ih (directive.perform.run.run session).2
    refine ⟨events ++ more, hevents.trans hmore, ?_⟩
    rw [List.filterMap_append, hgiven, hmoreGiven, List.filterMap_cons]
    cases directive.given? <;> rfl

theorem directory_of_perform {directive : Directive} {before after : Session σ} {e : Error}
    (hrefresh : directive.IsRefresh)
    (h : directive.perform.run.run before = (.error e, after)) :
    after.directory = before.directory := by
  cases directive with
  | publish _ => cases hrefresh
  | execute _ _ _ => cases hrefresh
  | refresh => exact Discovery.directory_of_refresh (Fallible.run_of_discard h)
  | refreshFrom nodes => exact (Discovery.run_refreshFrom_of_error (Fallible.run_of_discard h)).2
  | refreshWithRetry retries backoff =>
    exact Discovery.directory_of_refreshRounds (Fallible.run_of_discard h)

/-- From a new directory on, the epoch says at every point how many topologies have been published
so far. Those that callers give are published in their order; each of the others is what one node
answered. A refresh that fails leaves the directory as it was. -/
theorem performAll_evolves {session : Session σ} (hnew : session.directory.current = .empty)
    (directives : List Directive) :
    (∃ events, Evolves session events (performAll directives session) ∧
        events.filterMap Event.given? = directives.filterMap given? ∧
        (∀ front back, events = front ++ back → ∃ middle,
          Evolves session front middle ∧ Evolves middle back (performAll directives session) ∧
            middle.directory = front.foldl Event.apply session.directory ∧
            middle.directory.current.epoch = (front.filterMap Event.published?).length) ∧
        ∀ nodes snapshot, .searched nodes (.ok snapshot) ∈ events →
          ∃ t ∈ (performAll directives session).history, t.node ∈ nodes ∧
            Discovery.FoundIn t snapshot.shards ∧ snapshot.IsOrderly) ∧
      ∀ (directive : Directive) (before after : Session σ) (e : Error), directive.IsRefresh →
        directive.perform.run.run before = (.error e, after) →
          after.directory = before.directory := by
  obtain ⟨events, hevents, hgiven⟩ := evolves_performAll directives session
  refine ⟨⟨events, hevents, hgiven, ?_, ?_⟩, fun _ _ _ _ => directory_of_perform⟩
  · rintro front back rfl
    obtain ⟨middle, hfront, hback⟩ := hevents.split
    refine ⟨middle, hfront, hback, hfront.directory, ?_⟩
    rw [hfront.directory, Event.epoch_foldl_apply, hnew]
    exact Nat.zero_add _
  · intro nodes snapshot hsearched
    obtain ⟨t, ht, hnode, hfound⟩ := hevents.found hsearched
    exact ⟨t, ht, hnode, hfound, hfound.isOrderly⟩

set_option maxRecDepth 4000 in
/-- A topology whose one node does not exist is published. A search that asks that node fails, and
a search that also asks the only node there is succeeds. A command is sent to it then. -/
theorem performAll_evolves_lonely :
    let node : NodeAddress := ⟨"a", 1⟩
    let slots : Reply := .array [.array [.integer 0, .integer 16383,
      .array [.bulk (Bytes.ofAscii "a"), .integer 1]]]
    let client := Client.cluster {}
    let session := client.session (⟨[{ address := node, slots := some slots }]⟩ : ScriptedCluster)
      .counting .counting
    let directives : List Directive := [.publish { shards := [⟨7, 7, ⟨"b", 2⟩, []⟩] }, .refresh,
      .refreshFrom [⟨"b", 2⟩, node], .execute client ⟨false, [⟨"GET", [.text "k"]⟩]⟩ none]
    let final := performAll directives session
    session.directory.current = .empty ∧ final.directory.current.epoch = 2 ∧
      final.log.length = 4 ∧ ∃ events, Evolves session events final ∧
        (events.filterMap Event.given?).length = 1 ∧
        (events.filterMap Event.published?).length = 2 := by
  intro node slots client session directives final
  have hnew : session.directory.current = .empty := rfl
  have hepoch : final.directory.current.epoch = 2 := by decide +kernel
  obtain ⟨⟨events, hevents, hgiven, hepochs, -⟩, -⟩ := performAll_evolves hnew directives
  obtain ⟨middle, -, hlast, -, hcount⟩ := hepochs events [] (List.append_nil events).symm
  have hsame : final.directory = middle.directory := hlast.directory
  rw [← hsame, hepoch] at hcount
  exact ⟨hnew, hepoch, by decide +kernel, events, hevents, by rw [hgiven]; rfl, hcount.symm⟩

end Directive

end ClusterBatch
