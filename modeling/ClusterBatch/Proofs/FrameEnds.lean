import ClusterBatch.Proofs.Framing
import Mathlib.Data.List.Forall2

/-!
# Where frames end

A frame is read from its own octets alone: the reader takes them and looks at none behind them, and
they alone bound how many aggregates it enters. Octets therefore begin with frames, one after the
other, exactly if these can be read off their front.

Main statements: `Reply.decode_eq_ok_iff_append` for one frame, `Reply.beginsWith_cons_iff` and
`Reply.exists_beginsWith` for several.
-/

namespace ClusterBatch

namespace Reader

variable {α β : Type}

/-- Whatever `read` makes of octets, it takes some off their front and `wider` makes the same of
these, whatever follows, unless they are more than `bound`. -/
def Takes (bound : Nat) (read wider : Reader α) : Prop :=
  ∀ ⦃data a rest⦄, read data = .ok (a, rest) → ∃ used, data = used ++ rest ∧
    (used.length ≤ bound → ∀ more, wider (used ++ more) = .ok (a, more))

namespace Takes

variable {bound : Nat} {read wider : Reader α} {next wider' : α → Reader β}

theorem of_ok (h : ∀ data a rest, read data = .ok (a, rest) →
    ∃ used, data = used ++ rest ∧ ∀ more, read (used ++ more) = .ok (a, more)) :
    Takes bound read read := by
  intro data a rest hread
  obtain ⟨used, hdata, hmore⟩ := h data a rest hread
  exact ⟨used, hdata, fun _ => hmore⟩

theorem bind (h : Takes bound read wider) (hnext : ∀ a, Takes bound (next a) (wider' a)) :
    Takes bound (read >>= next) (wider >>= wider') := by
  intro data b rest hread
  obtain ⟨a, middle, ha, hb⟩ := bind_eq_ok.1 hread
  obtain ⟨first, rfl, hfirst⟩ := h ha
  obtain ⟨second, rfl, hsecond⟩ := hnext a hb
  refine ⟨first ++ second, (List.append_assoc ..).symm, fun hlength more => ?_⟩
  rw [List.length_append] at hlength
  refine bind_eq_ok.2 ⟨a, second ++ more, ?_, hsecond (by omega) more⟩
  rw [List.append_assoc]
  exact hfirst (by omega) (second ++ more)

end Takes

end Reader

namespace Reply

open Reader

variable {limits : Limits}

theorem readOctet_eq_ok_iff {data rest : Bytes} {octet : UInt8} :
    readOctet data = .ok (octet, rest) ↔ data = octet :: rest := by
  cases data with
  | nil => exact ⟨nofun, nofun⟩
  | cons first tail => simp [readOctet]

theorem congruence_takes (bound : Nat) : Congruence fun _ => Takes bound where
  line := .of_ok fun data line rest h => by
    obtain ⟨hdata, hline⟩ := readLine_eq_ok_iff.1 h
    exact ⟨_, hdata, fun _ => readLine_eq_ok_iff.2 ⟨rfl, hline⟩⟩
  octets count := .of_ok fun data payload rest h => by
    obtain ⟨hdata, hlength⟩ := readOctets_eq_ok_iff.1 h
    exact ⟨_, hdata, fun _ => readOctets_eq_ok_iff.2 ⟨rfl, hlength⟩⟩
  pure a := .of_ok fun data b rest h => by
    obtain ⟨rfl, rfl⟩ := pure_eq_ok.1 h
    exact ⟨[], rfl, fun _ => rfl⟩
  throw e := .of_ok fun data b rest h => nomatch h
  bind := .bind

/-- As many octets as a frame takes bound how many aggregates it can enter. -/
theorem readFrame_takes (bound enough depth : Nat) :
    Takes enough (readFrame limits bound depth) (readFrame limits enough depth) := by
  induction bound generalizing enough depth with
  | zero => exact fun _ _ _ h => nomatch h
  | succ bound ih =>
    intro data reply rest h
    obtain ⟨octet, middle, hoctet, hrest⟩ := bind_eq_ok.1 h
    obtain ⟨marker, hmarker⟩ : ∃ marker, Marker.ofByte? octet = some marker := by
      cases hmarker : Marker.ofByte? octet with
      | some marker => exact ⟨marker, rfl⟩
      | none =>
        rw [hmarker] at hrest
        exact nomatch hrest
    simp only [hmarker] at hrest
    obtain rfl := readOctet_eq_ok_iff.1 hoctet
    obtain ⟨used, rfl, hused⟩ :=
      (congruence_takes (enough - 1)).readContents (ih (enough - 1)) depth marker hrest
    refine ⟨octet :: used, rfl, fun hlength more => ?_⟩
    rw [List.length_cons] at hlength
    -- The marker is an octet too, so one aggregate less is left for what follows it.
    obtain ⟨fewer, rfl⟩ : ∃ fewer, enough = fewer + 1 := ⟨enough - 1, by omega⟩
    refine bind_eq_ok.2 ⟨octet, used ++ more, rfl, ?_⟩
    simp only [hmarker]
    exact hused (by omega) more

/-- Octets are exactly one frame, which holds this reply. -/
def IsFrame (frame : Bytes) (reply : Reply) : Prop := decode {} frame = .ok (reply, [])

/-- Octets begin with one frame after the other that hold these replies, and `rest` follows. -/
def BeginsWith (data : Bytes) (replies : List Reply) (rest : Bytes) : Prop :=
  ∃ frames, List.Forall₂ IsFrame frames replies ∧ data = frames.flatten ++ rest

/-- What is read off the front of octets is read from a frame, and from nothing behind it. -/
theorem decode_eq_ok_iff_append {data rest : Bytes} {reply : Reply} :
    decode limits data = .ok (reply, rest) ↔
      ∃ frame, decode limits frame = .ok (reply, []) ∧ data = frame ++ rest := by
  constructor
  · intro h
    -- How many octets the frame has is known only once it has been read.
    obtain ⟨frame, hdata, -⟩ := readFrame_takes data.length 0 0 h
    obtain ⟨same, hsame, hframe⟩ := readFrame_takes data.length frame.length 0 h
    obtain rfl : same = frame := List.append_cancel_right (hsame.symm.trans hdata)
    have hread := hframe (Nat.le_refl _) []
    rw [List.append_nil] at hread
    exact ⟨same, hread, hdata⟩
  · rintro ⟨frame, hframe, rfl⟩
    exact (decode_extends limits).value hframe rest

theorem decode_eq_ok_iff {data rest : Bytes} {reply : Reply} :
    decode {} data = .ok (reply, rest) ↔ ∃ frame, IsFrame frame reply ∧ data = frame ++ rest :=
  decode_eq_ok_iff_append

theorem beginsWith_nil_iff {data rest : Bytes} : BeginsWith data [] rest ↔ data = rest := by
  simp [BeginsWith]

theorem beginsWith_cons_iff {data rest : Bytes} {reply : Reply} {replies : List Reply} :
    BeginsWith data (reply :: replies) rest ↔
      ∃ middle, decode {} data = .ok (reply, middle) ∧ BeginsWith middle replies rest := by
  constructor
  · rintro ⟨frames, hframes, rfl⟩
    obtain ⟨frame, others, hframe, hothers, rfl⟩ := List.forall₂_cons_right_iff.1 hframes
    refine ⟨others.flatten ++ rest, decode_eq_ok_iff.2 ⟨frame, hframe, ?_⟩, others, hothers, rfl⟩
    rw [List.flatten_cons, List.append_assoc]
  · rintro ⟨middle, hdecode, others, hothers, rfl⟩
    obtain ⟨frame, hframe, rfl⟩ := decode_eq_ok_iff.1 hdecode
    exact ⟨frame :: others, .cons hframe hothers, by rw [List.flatten_cons, List.append_assoc]⟩

/-- Octets that are some frames and lack the end of the last one begin with the frames before some
frame and with a part of that frame, for which more octets are asked for. -/
theorem beginsWith_of_cut {frames : List Bytes} {replies : List Reply} {part : Bytes}
    (hframes : List.Forall₂ IsFrame frames replies) (hpart : part <+: frames.flatten)
    (hne : part ≠ frames.flatten) :
    ∃ whole rest, whole.length < frames.length ∧ BeginsWith part whole rest ∧
      decode {} rest = .error .incomplete := by
  induction hframes generalizing part with
  | nil => exact absurd (List.prefix_nil.1 hpart) hne
  | @cons frame reply frames replies hframe _ ih =>
    rw [List.flatten_cons] at hpart hne
    by_cases hfront : frame <+: part
    · obtain ⟨tail, rfl⟩ := hfront
      rw [List.prefix_append_right_inj] at hpart
      obtain ⟨whole, rest, hlt, hbegins, hrest⟩ := ih hpart fun h => hne (by rw [h])
      have hdecode : decode {} (frame ++ tail) = .ok (reply, tail) :=
        decode_eq_ok_iff.2 ⟨frame, hframe, rfl⟩
      exact ⟨reply :: whole, rest, Nat.succ_lt_succ hlt,
        beginsWith_cons_iff.2 ⟨tail, hdecode, hbegins⟩, hrest⟩
    · have hshort : part <+: frame :=
        (List.prefix_or_prefix_of_prefix hpart (List.prefix_append frame _)).resolve_right hfront
      refine ⟨[], part, Nat.succ_pos _, beginsWith_nil_iff.2 rfl, ?_⟩
      have hextends := decode_extends {}
      have hother : part ≠ frame := by
        rintro rfl
        exact hfront (List.prefix_refl part)
      exact hextends.incomplete_of_strict_prefix hframe (List.append_nil frame).symm hshort hother

/-- Octets begin with as many frames as are expected, or with fewer and something that is none. -/
theorem exists_beginsWith (count : Nat) (data : Bytes) :
    (∃ replies rest, replies.length = count ∧ BeginsWith data replies rest) ∨
      ∃ received rest cause, received.length < count ∧ BeginsWith data received rest ∧
        decode {} rest = .error cause := by
  induction count generalizing data with
  | zero => exact .inl ⟨[], data, rfl, beginsWith_nil_iff.2 rfl⟩
  | succ count ih =>
    cases h : decode {} data with
    | error cause => exact .inr ⟨[], data, cause, Nat.succ_pos _, beginsWith_nil_iff.2 rfl, h⟩
    | ok p =>
      obtain ⟨replies, rest, hlength, hbegins⟩ | ⟨received, rest, cause, hlt, hbegins, hstop⟩ :=
        ih p.2
      · exact .inl ⟨p.1 :: replies, rest, congrArg (· + 1) hlength,
          beginsWith_cons_iff.2 ⟨p.2, h, hbegins⟩⟩
      · exact .inr ⟨p.1 :: received, rest, cause, Nat.succ_lt_succ hlt,
          beginsWith_cons_iff.2 ⟨p.2, h, hbegins⟩, hstop⟩

end Reply

end ClusterBatch
