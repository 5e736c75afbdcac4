import ClusterBatch.Command.Keys

/-!
# Keys that are counted

Scripts, pops from several lists and operations on several sets say how many keys they have. The
count is what a caller wrote, so it need not fit what follows it. If it does, exactly the arguments
that it counts are keys; and whatever it is, it is no key itself.

Main statement: `Command.keys_counted`.
-/

namespace ClusterBatch

namespace Numeral

variable {text digits : List Char} {bound n : Nat}

theorem below?_of_natural (h : natural? digits = some n) (hn : n < bound) :
    (natural? digits).filter (· < bound) = some n := by
  rw [h]
  exact Option.filter_some_pos (by simpa using hn)

/-- What an integer's numeral stands for is read as a count, if it is one. Minus zero is not, but
then nothing is counted either. -/
theorem getD_below?_of_integer? (h : integer? text = some (n : Int)) (hn : n < bound) :
    (below? bound text).getD 0 = n := by
  unfold integer? at h
  split at h
  · next digits =>
    obtain rfl : n = 0 := by
      cases hdigits : natural? digits <;> simp [hdigits] at h
      omega
    have hnone : natural? ('-' :: digits) = none := by simp [natural?]
    simp [below?, hnone]
  · next digits =>
    obtain ⟨k, hdigits, hk⟩ := Option.map_eq_some_iff.1 h
    obtain rfl : k = n := Int.ofNat.inj hk
    simp [below?, below?_of_natural hdigits hn]
  · next hminus hplus =>
    obtain ⟨k, hdigits, hk⟩ := Option.map_eq_some_iff.1 h
    obtain rfl : k = n := Int.ofNat.inj hk
    unfold below?
    split
    · exact absurd rfl (hplus _)
    · simp [below?_of_natural hdigits hn]

end Numeral

namespace Argument

/-- Whether an argument gives a number, as an integer or as decimal text. -/
def Denotes (argument : Argument) (n : Int) : Prop :=
  ∃ text, argument.text? = some text ∧ Numeral.integer? text.toList = some n

theorem denotes_ofInt (n : Int) : (ofInt n).Denotes n := ⟨_, rfl, by simp⟩

end Argument

namespace Command

open Argument

/-- The commands with a count of keys: how many arguments stand in front of the count, and how many
of them are keys to store into. -/
inductive IsCounted : (name : String) → (before stored : Nat) → Prop
  | script {name : String}
    (h : name ∈ ["EVAL", "EVALSHA", "FCALL", "EVAL_RO", "EVALSHA_RO", "FCALL_RO"]) :
    IsCounted name 1 0
  | waiting {name : String} (h : name ∈ ["BLMPOP", "BZMPOP"]) : IsCounted name 1 0
  | storing {name : String} (h : name ∈ ["ZUNIONSTORE", "ZINTERSTORE", "ZDIFFSTORE"]) :
    IsCounted name 1 1
  | bare {name : String} (h : name ∈
      ["ZUNION", "ZINTER", "ZDIFF", "ZINTERCARD", "SINTERCARD", "LMPOP", "ZMPOP"]) :
    IsCounted name 0 0

variable {name : String} {before stored : Nat}

theorem countOf_of_denotes {count : Argument} {n : Nat} (h : count.Denotes n)
    (hn : n < UInt64.size) : countOf (some count) = n := by
  obtain ⟨text, htext, hnumber⟩ := h
  rw [countOf, Option.bind_some, htext, Option.bind_some]
  exact Numeral.getD_below?_of_integer? hnumber hn

theorem hasLayout_of_isCounted (h : IsCounted name before stored) :
    HasLayout name (.counted before stored) := by
  cases h with
  | script h | waiting h | storing h | bare h =>
    revert name
    decide

theorem IsCounted.stored_le (h : IsCounted name before stored) : stored ≤ before := by
  cases h <;> decide

/-- What is told by a count and what is stored into, of the arguments without the count. -/
theorem select_counted_sublist (arguments : List Argument) (before stored : Nat) :
    (KeyLayout.select arguments (.counted before stored)).Sublist (arguments.eraseIdx before) := by
  rw [List.eraseIdx_eq_take_drop_succ]
  refine List.Sublist.append ?_ (List.take_sublist _ _)
  exact (List.take_prefix_take_left (Nat.min_le_right _ _)).sublist

/-- If a command counts its keys and the count is right, its keys are what it stores into and the
arguments that are counted, in order. A right count fits a word, as the length of any list in memory
does. Whatever the arguments are, the keys are some of them in order, and what stands in the place
of the count is none of them. -/
theorem keys_counted (h : IsCounted name before stored) :
    (∀ front count keys rest, front.length = before → count.Denotes keys.length →
        keys.length < UInt64.size →
          Command.keys ⟨name, front ++ count :: (keys ++ rest)⟩ =
            (front.take stored ++ keys).map content) ∧
      ∀ arguments, (Command.keys ⟨name, arguments⟩).Sublist
        ((arguments.eraseIdx before).map content) := by
  constructor
  · rintro front count keys rest rfl hcount hlength
    have hcountOf : countOf (front ++ count :: (keys ++ rest))[front.length]? = keys.length := by
      rw [List.getElem?_append_right (Nat.le_refl _), Nat.sub_self, List.getElem?_cons_zero]
      exact countOf_of_denotes hcount hlength
    have hfront : (front ++ count :: (keys ++ rest)).take stored = front.take stored :=
      List.take_append_of_le_length h.stored_le
    have hbehind : (front ++ count :: (keys ++ rest)).drop (front.length + 1) = keys ++ rest := by
      simp [List.drop_append]
    rw [keys_of_hasLayout (hasLayout_of_isCounted h), KeyLayout.select, hcountOf,
      Nat.min_eq_left h.stored_le, hfront, hbehind, List.take_left]
  · intro arguments
    rw [keys_of_hasLayout (hasLayout_of_isCounted h)]
    exact (select_counted_sublist arguments before stored).map content

/-- A union with weights behind its keys and one whose count is more than there are. -/
theorem keys_counted_union :
    let weights : List Argument := [.text "WEIGHTS", .text "1", .text "2"]
    IsCounted "ZUNIONSTORE" 1 1 ∧ (Argument.ofInt 2).Denotes 2 ∧
      Command.keys ⟨"ZUNIONSTORE",
        .text "out" :: .ofInt 2 :: ([.text "2", .octets [0, 255]] ++ weights)⟩ =
          [[111, 117, 116], [50], [0, 255]] ∧
      (Command.keys ⟨"ZUNIONSTORE", [.text "out", .text "9", .text "2"]⟩).Sublist
        [[111, 117, 116], [50]] := by
  intro weights
  have hcounted : IsCounted "ZUNIONSTORE" 1 1 := .storing (by decide)
  have hcount : (Argument.ofInt 2).Denotes 2 := denotes_ofInt 2
  obtain ⟨hright, hany⟩ := keys_counted hcounted
  have hkeys := hright [.text "out"] (.ofInt 2) [.text "2", .octets [0, 255]] weights rfl hcount
    (by decide)
  refine ⟨hcounted, hcount, hkeys.trans (by decide), ?_⟩
  exact hany [.text "out", .text "9", .text "2"]

end Command

end ClusterBatch
