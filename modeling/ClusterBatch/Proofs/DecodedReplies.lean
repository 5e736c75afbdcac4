import ClusterBatch.Proofs.FrameEnds
import ClusterBatch.Proofs.Requests

/-!
# Replies that were read

Octets need not have been written by this library, and there is more than one way to write most
replies: numerals may have a sign or leading zeros, there are three forms of the null, and
attributes may stand in front. Whatever the octets were, the reader takes whole lines off their
front, and the reply that it returns keeps to its limits and would be read back had it been written
here.

A length or a count is read from a signed word. Limits beyond those words are therefore no different
from the greatest of them, which is why what was read can always be written.

Main statements: `Reply.decode_capped`, `Reply.survives_of_decode`.
-/

namespace ClusterBatch

/-- The limits that come to the same, none of them greater than what a signed word can say. -/
def Limits.capped (limits : Limits) : Limits where
  depth := limits.depth
  elements := min limits.elements 0x7fffffffffffffff
  payload := min limits.payload 0x7fffffffffffffff

namespace Reader

variable {α β : Type}

/-- Whatever `read` takes off the front of octets ends a line, if it takes anything. -/
def EndsLine (read : Reader α) : Prop :=
  ∀ ⦃data a rest⦄, read data = .ok (a, rest) →
    ∃ used, data = used ++ rest ∧ (used = [] ∨ Bytes.crlf <:+ used)

theorem EndsLine.bind {read : Reader α} {next : α → Reader β} (h : EndsLine read)
    (hnext : ∀ a, EndsLine (next a)) : EndsLine (read >>= next) := by
  intro data b rest hread
  obtain ⟨a, middle, ha, hb⟩ := bind_eq_ok.1 hread
  obtain ⟨first, rfl, hfirst⟩ := h ha
  obtain ⟨second, rfl, hsecond⟩ := hnext a hb
  refine ⟨first ++ second, (List.append_assoc ..).symm, ?_⟩
  obtain rfl | hsecond := hsecond
  · rwa [List.append_nil]
  · exact .inr (hsecond.trans (List.suffix_append first second))

end Reader

namespace Reply

open Reader

variable {α : Type} {limits : Limits}

/-! ## Where a frame ends -/

theorem congruence_endsLine : Congruence fun _ read (_ : Reader _) => EndsLine read where
  line data line rest h := ⟨_, (readLine_eq_ok_iff.1 h).1, .inr (List.suffix_append line _)⟩
  octets count data payload rest h :=
    ⟨_, (readOctets_eq_ok_iff.1 h).1, .inr (List.suffix_append payload _)⟩
  pure a data b rest h := by
    obtain ⟨rfl, rfl⟩ := pure_eq_ok.1 h
    exact ⟨[], rfl, .inl rfl⟩
  throw e data b rest h := nomatch h
  bind := .bind

theorem readContents_endsLine {inner : Nat → Reader Reply} (h : ∀ depth, EndsLine (inner depth))
    (depth : Nat) (marker : Marker) : EndsLine (readContents limits inner depth marker) :=
  @Congruence.readContents limits _ congruence_endsLine inner inner h depth marker

/-- Behind a marker stands something. -/
theorem readContents_ne_ok {inner wider : Nat → Reader Reply} {depth : Nat} {marker : Marker}
    {data : Bytes} {reply : Reply} (hinner : ∀ depth, Takes 0 (inner depth) (wider depth)) :
    readContents limits inner depth marker data ≠ .ok (reply, data) := by
  intro h
  obtain ⟨used, hdata, hused⟩ := (congruence_takes 0).readContents hinner depth marker h
  obtain rfl : used = [] := List.self_eq_append_left.1 hdata
  have hnothing : readContents limits wider depth marker [] = .error .incomplete := by
    cases marker <;> rfl
  exact nomatch hnothing.symm.trans (hused (Nat.le_refl _) [])

/-- A frame is a marker and what stands behind it up to the end of a line. -/
theorem readFrame_endsLine {bound depth : Nat} {data rest : Bytes} {reply : Reply}
    (h : readFrame limits bound depth data = .ok (reply, rest)) :
    ∃ octet used, data = octet :: used ++ rest ∧ Bytes.crlf <:+ used := by
  induction bound generalizing depth data reply rest with
  | zero => exact nomatch h
  | succ bound ih =>
    have hinner (depth : Nat) : EndsLine (readFrame limits bound depth) := by
      intro data reply rest h
      obtain ⟨octet, used, hdata, hused⟩ := ih h
      exact ⟨octet :: used, hdata, .inr (hused.trans (List.suffix_cons octet used))⟩
    obtain ⟨octet, middle, hoctet, hrest⟩ := bind_eq_ok.1 h
    obtain rfl := readOctet_eq_ok_iff.1 hoctet
    cases hmarker : Marker.ofByte? octet with
    | none =>
      rw [hmarker] at hrest
      exact nomatch hrest
    | some marker =>
      simp only [hmarker] at hrest
      obtain ⟨used, rfl, rfl | hused⟩ := readContents_endsLine hinner depth marker hrest
      · exact absurd hrest (readContents_ne_ok fun depth => readFrame_takes bound 0 depth)
      · exact ⟨octet, used, rfl, hused⟩

/-! ## Limits beyond signed words -/

theorem readLength_yields :
    Yields readLength fun length => ∀ n ∈ length, n ≤ 0x7fffffffffffffff := by
  constructor
  rintro data _ rest hread n ⟨⟩
  obtain ⟨_, ⟨_, word, -, -, -, hword⟩, -⟩ := readLength_eq_ok_iff.1 hread
  have hlt := word.toInt_lt
  rw [hword, countNumber] at hlt
  omega

theorem readPayload_capped (limits : Limits) : readPayload limits.capped = readPayload limits := by
  refine readLength_yields.bind_congr fun length hlength => ?_
  cases length with
  | none => rfl
  | some length =>
    have hle := hlength length rfl
    by_cases h : limits.payload < length
    · have hcapped : limits.capped.payload = limits.payload := by simp [Limits.capped]; omega
      simp only [hcapped]
    · have hcapped : ¬ limits.capped.payload < length := by simp [Limits.capped]; omega
      simp only [h, hcapped, if_false]

theorem readCount_capped (limits : Limits) : readCount limits.capped = readCount limits := by
  refine readLength_yields.bind_congr fun count hcount => ?_
  cases count with
  | none => rfl
  | some count =>
    have hle := hcount count rfl
    have hiff : limits.capped.elements < count ↔ limits.elements < count := by
      simp [Limits.capped]; omega
    simp only [hiff]

theorem readContents_capped (limits : Limits) (inner : Nat → Reader Reply) (depth : Nat)
    (marker : Marker) :
    readContents limits.capped inner depth marker = readContents limits inner depth marker := by
  have hmembers {α : Type} (read : Reader α) :
      readMembers limits.capped (depth + 1) read = readMembers limits (depth + 1) read := by
    unfold readMembers
    rw [readCount_capped]
    rfl
  cases marker <;>
    simp only [readContents, readPresentPayload, readPayload_capped, hmembers]

theorem readFrame_capped (limits : Limits) (bound depth : Nat) :
    readFrame limits.capped bound depth = readFrame limits bound depth := by
  induction bound generalizing depth with
  | zero => rfl
  | succ bound ih =>
    have hinner : readFrame limits.capped bound = readFrame limits bound := funext ih
    simp only [readFrame, hinner, readContents_capped]

/-- No limit is needed beyond what a signed word can say. -/
theorem decode_capped (limits : Limits) (data : Bytes) :
    decode limits.capped data = decode limits data := by
  rw [decode, decode, readFrame_capped]

theorem countable_of_decode {data rest : Bytes} {reply : Reply}
    (h : decode limits data = .ok (reply, rest)) : reply.Countable := by
  rw [← decode_capped] at h
  refine countable_of_within ?_ ?_ (within_of_decode h)
  · exact Nat.lt_succ_of_le (Nat.min_le_right ..)
  · exact Nat.lt_succ_of_le (Nat.min_le_right ..)

/-- What is taken off the front of octets is at least three of them and ends a line. The reply keeps
to the limits of the reader, and whatever its octets were, it is written so that it is read back
under the same limits, whatever follows. -/
theorem survives_of_decode {data rest : Bytes} {reply : Reply}
    (h : decode limits data = .ok (reply, rest)) :
    (∃ used, data = used ++ rest ∧ 3 ≤ used.length ∧ Bytes.crlf <:+ used) ∧
      reply.Within limits ∧
      ∀ more, decode limits (encode reply ++ more) = .ok (reply, more) := by
  have hwithin := within_of_decode h
  refine ⟨?_, hwithin, fun more => ?_⟩
  · obtain ⟨octet, used, hdata, hcrlf⟩ := readFrame_endsLine h
    have hlength : 2 ≤ used.length := hcrlf.length_le
    exact ⟨octet :: used, hdata, Nat.succ_le_succ hlength,
      hcrlf.trans (List.suffix_cons octet used)⟩
  · have hwithinAt := withinAt_zero.2 hwithin
    exact readsBack limits reply _ 0 more (countable_of_decode h) hwithinAt (by simp)

/-- Attributes, a count with a sign and leading zeros, a padded integer and two forms of the
null. -/
theorem survives_of_decode_padded :
    let data : Bytes := [124, 43, 48, 49, 13, 10, 43, 97, 13, 10, 58, 55, 13, 10, 42, 48, 48, 51,
      13, 10, 58, 45, 48, 48, 48, 53, 13, 10, 36, 45, 49, 13, 10, 95, 13, 10, 43]
    let reply := array [integer (-5), null, null]
    decode ⟨1, 3, 0⟩ data = .ok (reply, [43]) ∧
      reply.Within ⟨1, 3, 0⟩ ∧ decode ⟨1, 3, 0⟩ (encode reply) = .ok (reply, []) := by
  intro data reply
  have hdecode : decode ⟨1, 3, 0⟩ data = .ok (reply, [43]) := rfl
  obtain ⟨-, hwithin, hmore⟩ := survives_of_decode hdecode
  have hwritten := hmore []
  rw [List.append_nil] at hwritten
  exact ⟨hdecode, hwithin, hwritten⟩

end Reply

end ClusterBatch
