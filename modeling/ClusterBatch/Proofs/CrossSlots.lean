import ClusterBatch.Proofs.Failures
import ClusterBatch.ScriptedCluster

/-!
# Transactions across slots

The keys of a transaction lie on different slots if some key's slot differs from that of the first
one. Such a transaction is refused before anything happens; no other one is refused for its slots.

Main statement: `Client.execute_crossSlot`.
-/

namespace ClusterBatch

namespace Transaction

def keySlots (commands : List Command) : List Nat :=
  (commands.flatMap Command.keys).map Slot.ofKey

/-- The first slot, and the first one that differs from it. -/
def Diverge (slots : List Nat) (first other : Nat) : Prop :=
  ∃ same rest, slots = first :: (same ++ other :: rest) ∧ (∀ slot ∈ same, slot = first) ∧
    other ≠ first

variable {commands : List Command} {slots : List Nat} {first other slot : Nat}

theorem find?_ne_eq_some_iff : slots.find? (· ≠ first) = some other ↔
    ∃ same rest, slots = same ++ other :: rest ∧ (∀ slot ∈ same, slot = first) ∧ other ≠ first := by
  rw [List.find?_eq_some_iff_append]
  constructor
  · rintro ⟨hother, same, rest, hslots, hsame⟩
    exact ⟨same, rest, hslots, by simpa using hsame, by simpa using hother⟩
  · rintro ⟨same, rest, hslots, hsame, hother⟩
    exact ⟨by simpa using hother, same, rest, hslots, by simpa using hsame⟩

theorem commonSlot_of_diverge (h : Diverge (keySlots commands) first other) :
    commonSlot commands = .error (.crossSlot first other) := by
  obtain ⟨same, rest, hslots, hsame, hother⟩ := h
  have hfind := find?_ne_eq_some_iff.2 ⟨same, rest, rfl, hsame, hother⟩
  unfold commonSlot
  rw [← keySlots, hslots]
  dsimp only
  rw [hfind]

theorem exists_diverge (h : ∃ a ∈ slots, ∃ b ∈ slots, a ≠ b) :
    ∃ first other, Diverge slots first other := by
  cases slots with
  | nil => simp at h
  | cons first rest =>
    cases hfind : rest.find? (· ≠ first) with
    | some other =>
      obtain ⟨same, rest, rfl, hsame, hother⟩ := find?_ne_eq_some_iff.1 hfind
      exact ⟨first, other, same, rest, rfl, hsame, hother⟩
    | none =>
      have hall : ∀ slot ∈ first :: rest, slot = first := by simpa using hfind
      obtain ⟨a, ha, b, hb, hne⟩ := h
      exact absurd ((hall a ha).trans (hall b hb).symm) hne

theorem commonSlot_eq_some (hkeys : keySlots commands ≠ [])
    (hshared : ∀ s ∈ keySlots commands, s = slot) : commonSlot commands = .ok (some slot) := by
  unfold commonSlot
  rw [← keySlots]
  cases hslots : keySlots commands with
  | nil => exact absurd hslots hkeys
  | cons first rest =>
    rw [hslots] at hshared
    obtain ⟨rfl, hrest⟩ := List.forall_mem_cons.1 hshared
    have hfind : rest.find? (· ≠ first) = none := by simpa using hrest
    dsimp only
    rw [hfind]

theorem exists_commonSlot (h : ∀ a ∈ keySlots commands, ∀ b ∈ keySlots commands, a = b) :
    ∃ slot, commonSlot commands = .ok slot := by
  cases hslots : keySlots commands with
  | nil =>
    refine ⟨none, ?_⟩
    unfold commonSlot
    rw [← keySlots, hslots]
  | cons first rest =>
    have hfirst : first ∈ keySlots commands := by simp [hslots]
    exact ⟨some first, commonSlot_eq_some (by simp [hslots]) fun s hs => h s hs first hfirst⟩

end Transaction

namespace Client

open Transaction

variable {σ : Type} [Network σ]

/-- A transaction whose keys lie on different slots is refused and leaves the session as it is: no
frame is sent and no topology is looked for. No other transaction is refused for its slots. -/
theorem execute_crossSlot (settings : Settings) (hint : Option Hint) (commands : List Command)
    (session : Session σ) :
    let run := ((cluster settings).execute ⟨true, commands⟩ hint).run.run session
    ((∃ a ∈ keySlots commands, ∃ b ∈ keySlots commands, a ≠ b) →
        ∃ first other, Diverge (keySlots commands) first other ∧
          run = (.error (.crossSlot first other), session)) ∧
      ((∀ a ∈ keySlots commands, ∀ b ∈ keySlots commands, a = b) →
        ∀ first other, run.1 ≠ .error (.crossSlot first other)) := by
  intro run
  cases commands with
  | nil => exact ⟨by simp [keySlots], fun _ _ _ => by simp [run, execute]⟩
  | cons command rest =>
    have hrun : run = (onCluster settings hint (command :: rest)).run.run session := rfl
    refine ⟨fun h => ?_, fun h first other hcross => ?_⟩
    · obtain ⟨first, other, hdiverge⟩ := exists_diverge h
      refine ⟨first, other, hdiverge, ?_⟩
      rw [hrun, onCluster, commonSlot_of_diverge hdiverge]
      rfl
    · obtain ⟨slot, hslot⟩ := exists_commonSlot h
      have honly : FailsOnly (fun e => e.IsUnrouted ∨ e.IsAnswer)
          (onCluster settings hint (command :: rest) : Call σ _) := failsOnly_onCluster hslot
      have hfails := honly session (.crossSlot first other) run.2
        (Prod.ext (hrun ▸ hcross) (hrun ▸ rfl))
      simp [Error.IsUnrouted, Error.IsDiscovery, Error.IsAnswer] at hfails

/-- Two keys that share a hash tag, and a third key on another slot. Nothing has been discovered
yet. -/
theorem execute_crossSlot_rename :
    let session := (cluster {}).session (⟨[]⟩ : ScriptedCluster) .counting .counting
    let commands : List Command :=
      [⟨"RENAME", [.text "a\x7bfoo\x7d", .text "foo"]⟩, ⟨"SET", [.text "bar", .text "foo"]⟩]
    Diverge (keySlots commands) 12182 5061 ∧
      ((cluster {}).execute ⟨true, commands⟩ none).run.run session =
        (.error (.crossSlot 12182 5061), session) := by
  intro session commands
  have hslots : keySlots commands = [12182, 12182, 5061] := by decide +kernel
  have hdiffer : ∃ a ∈ keySlots commands, ∃ b ∈ keySlots commands, a ≠ b := by
    rw [hslots]
    decide
  obtain ⟨first, other, hdiverge, hrun⟩ :=
    (execute_crossSlot {} none commands session).1 hdiffer
  have hgiven : Diverge (keySlots commands) 12182 5061 :=
    ⟨[12182], [], hslots, by simp, by decide⟩
  cases (commonSlot_of_diverge hdiverge).symm.trans (commonSlot_of_diverge hgiven)
  exact ⟨hgiven, hrun⟩

end Client

end ClusterBatch
