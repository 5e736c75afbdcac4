import ClusterBatch.Proofs.FrameEnds
import ClusterBatch.Proofs.Recognizers
import ClusterBatch.Proofs.RoundTrip

/-!
# What stands behind an attribute

An attribute is laid out like a map: its marker, a line that says how many pairs it has, and the
pairs, each of them two frames that lie one aggregate deep. Whoever wrote the octets, the reader
goes over exactly such an attribute and returns what it makes of the octets behind it, as if the
attribute were not there.

There is one exception. A line that says minus one makes a map the null, and an attribute as well:
then the null is returned in place of the frame behind the attribute, and that frame is left over.

Main statements: `Reply.readFrame_agree`, a frame in an aggregate is one in its own right, and
`Reply.decode_attributes_iff`.
-/

namespace ClusterBatch

/-- The limits that hold in an aggregate. -/
def Limits.inside (limits : Limits) : Limits where
  depth := limits.depth - 1
  elements := limits.elements
  payload := limits.payload

namespace Reader

variable {α β : Type}

/-! ## Readers that return the same -/

/-- Whether two readers return the same from the same octets. They may differ in why they return
nothing. -/
def Agree (read other : Reader α) : Prop :=
  ∀ data result, read data = .ok result ↔ other data = .ok result

namespace Agree

variable {read other : Reader α}

theorem refl (read : Reader α) : Agree read read := fun _ _ => Iff.rfl

theorem throw (e e' : DecodeError) : Agree (throw e : Reader α) (throw e') :=
  fun _ _ => ⟨nofun, nofun⟩

theorem bind {next next' : α → Reader β} (h : Agree read other)
    (hnext : ∀ a, Agree (next a) (next' a)) : Agree (read >>= next) (other >>= next') := by
  rintro data ⟨b, rest⟩
  simp only [bind_eq_ok, h data _, hnext _ _ _]

theorem map (f : α → β) (h : Agree read other) : Agree (f <$> read) (f <$> other) := by
  rw [map_eq_pure_bind, map_eq_pure_bind]
  exact h.bind fun a => refl (Pure.pure (f a))

end Agree

end Reader

namespace Reply

open Reader

variable {α : Type} {limits : Limits} {bound depth : Nat}

/-! ## Frames in an aggregate -/

theorem readMany_agree {read other : Reader α} (h : Agree read other) (count : Nat) :
    Agree (readMany read count) (readMany other count) := by
  induction count with
  | zero => exact .refl _
  | succ count ih => exact h.bind fun first => ih.bind fun others => .refl _

theorem readMembers_agree {read other : Reader α} (h : Agree read other) :
    Agree (readMembers limits (depth + 2) read) (readMembers limits.inside (depth + 1) other) := by
  refine (Agree.refl (readCount limits)).bind fun count? => ?_
  cases count? with
  | none => exact .refl _
  | some count =>
    by_cases hdepth : limits.depth < depth + 2
    · have hinside : limits.inside.depth < depth + 1 := by simp only [Limits.inside]; omega
      simp only [hdepth, hinside, if_true]
      exact .throw _ _
    · have hinside : ¬limits.inside.depth < depth + 1 := by simp only [Limits.inside]; omega
      simp only [hdepth, hinside, if_false]
      exact (readMany_agree h count).map some

theorem readContents_agree {inner other : Nat → Reader Reply}
    (h : ∀ depth, Agree (inner (depth + 1)) (other depth)) (depth : Nat) (marker : Marker) :
    Agree (readContents limits inner (depth + 1) marker)
      (readContents limits.inside other depth marker) := by
  have pairs : Agree (readPair (inner (depth + 2))) (readPair (other (depth + 1))) :=
    (h (depth + 1)).bind fun _ => (h (depth + 1)).bind fun _ => .refl _
  -- Only what has members looks at how deep it lies.
  cases marker with
  | array => exact .map _ (readMembers_agree (h (depth + 1)))
  | set => exact .map _ (readMembers_agree (h (depth + 1)))
  | push => exact .map _ (readMembers_agree (h (depth + 1)))
  | map => exact .map _ (readMembers_agree pairs)
  | attributes =>
    refine (readMembers_agree pairs).bind fun entries? => ?_
    cases entries? with
    | some entries => exact h depth
    | none => exact .refl _
  | _ => exact .refl _

/-- A frame in an aggregate is one in its own right for which there is one aggregate less to
enter. -/
theorem readFrame_agree (limits : Limits) (bound depth : Nat) :
    Agree (readFrame limits bound (depth + 1)) (readFrame limits.inside bound depth) := by
  induction bound generalizing depth with
  | zero => exact .throw _ _
  | succ bound ih =>
    refine (Agree.refl readOctet).bind fun octet => ?_
    cases Marker.ofByte? octet with
    | some marker => exact readContents_agree ih depth marker
    | none => exact .throw _ _

theorem readFrame_eq_ok_iff {data rest : Bytes} {reply : Reply} (h : data.length ≤ bound) :
    readFrame limits bound 0 data = .ok (reply, rest) ↔ decode limits data = .ok (reply, rest) := by
  constructor
  · intro hread
    -- The octets that were read are among those at hand, whose number is bound enough.
    obtain ⟨used, rfl, hused⟩ := readFrame_takes bound data.length 0 hread
    exact hused (by simp) rest
  · intro hread
    simpa using (readFrame_extends h 0).value hread []

theorem readFrame_recognizes (limits : Limits) (bound : Nat) :
    Recognizes bound (readFrame limits bound 1) fun frame reply =>
      decode limits.inside frame = .ok (reply, []) := by
  intro data hdata reply rest
  rw [readFrame_agree, readFrame_eq_ok_iff hdata, decode_eq_ok_iff_append]

/-! ## Attributes -/

/-- Octets are a key and a value, two frames that hold the two replies of a pair. -/
def IsPair (limits : Limits) (octets : Bytes) (pair : Reply × Reply) : Prop :=
  ∃ key value, decode limits key = .ok (pair.1, []) ∧ decode limits value = .ok (pair.2, []) ∧
    octets = key ++ value

/-- Octets are an attribute that consists of some pairs: its marker, a line that says how many pairs
there are, and the pairs one after the other, which lie in an aggregate. -/
structure IsAttribute (limits : Limits) (octets : Bytes) (pairs : List (Reply × Reply)) : Prop where
  layout : ∃ line pieces, IsNumeralLine line pairs.length ∧
    List.Forall₂ (IsPair limits.inside) pieces pairs ∧
      octets = Marker.attributes.byte :: (line ++ pieces.flatten)
  length_le : pairs.length ≤ limits.elements
  depth_pos : 0 < limits.depth

/-- The octets that were read, which are those in front of `rest`, begin with an attribute, and the
reply is the one that is read from the octets behind the attribute. -/
def ReadsBehind (limits : Limits) (data : Bytes) (reply : Reply) (rest : Bytes) : Prop :=
  ∃ front pairs frame, IsAttribute limits front pairs ∧ front ≠ [] ∧ frame ≠ [] ∧
    data = front ++ frame ++ rest ∧ decode limits (frame ++ rest) = .ok (reply, rest)

variable {tail rest : Bytes} {reply : Reply}

/-- An attribute is in front exactly if its pairs can be read behind its marker. -/
theorem readsBehind_iff :
    ReadsBehind limits (Marker.attributes.byte :: tail) reply rest ↔
      ∃ pairs middle, readMembers limits 1 (readPair (readFrame limits tail.length 1)) tail
        = .ok (some pairs, middle) ∧ decode limits middle = .ok (reply, rest) := by
  have hpair := (readFrame_recognizes limits tail.length).readPair
  simp only [readMembers_eq_some_iff hpair (Nat.le_refl _)]
  constructor
  · rintro ⟨_, pairs, frame, ⟨⟨line, pieces, hline, hpieces, rfl⟩, hle, hdepth⟩, -, -, hdata,
      hframe⟩
    refine ⟨pairs, frame ++ rest, ⟨hdepth, hle, line, pieces, hline, hpieces, ?_⟩, hframe⟩
    simpa using hdata
  · rintro ⟨pairs, middle, ⟨hdepth, hle, line, pieces, hline, hpieces, rfl⟩, hmiddle⟩
    obtain ⟨frame, -, rfl⟩ := decode_eq_ok_iff_append.1 hmiddle
    refine ⟨_, pairs, frame, ⟨⟨line, pieces, hline, hpieces, rfl⟩, hle, hdepth⟩,
      List.cons_ne_nil _ _, ?_, by simp, hmiddle⟩
    rintro rfl
    exact Nat.lt_irrefl _ (length_lt_of_decode hmiddle)

theorem not_readsBehind_of_announcesNone {more : Bytes} (h : AnnouncesNone tail more) :
    ¬ReadsBehind limits (Marker.attributes.byte :: tail) reply rest := by
  intro hbehind
  obtain ⟨pairs, middle, hpairs, -⟩ := readsBehind_iff.1 hbehind
  cases (readMembers_eq_none_iff.2 h).symm.trans hpairs

/-- What can be read off octets that begin with an attribute's marker: the reply behind an
attribute, or the null where minus one is announced. -/
theorem decode_marked_eq_ok_iff :
    decode limits (Marker.attributes.byte :: tail) = .ok (reply, rest) ↔
      ReadsBehind limits (Marker.attributes.byte :: tail) reply rest ∨
        reply = .null ∧ AnnouncesNone tail rest := by
  have hframe : Extends (readFrame limits tail.length 1) _ := readFrame_extends (Nat.le_refl _) 1
  have hmembers := congruence_extends.readMembers limits (congruence_extends.readPair hframe) 1
  rw [decode, List.length_cons, readFrame_marker, readContents, bind_eq_ok, readsBehind_iff]
  constructor
  · rintro ⟨_ | pairs, middle, hread, hreply⟩
    · obtain ⟨rfl, rfl⟩ := pure_eq_ok.1 hreply
      exact .inr ⟨rfl, readMembers_eq_none_iff.1 hread⟩
    · have hle := (hmembers.suffix hread).length_le
      exact .inl ⟨pairs, middle, hread, (readFrame_eq_ok_iff hle).1 hreply⟩
  · rintro (⟨pairs, middle, hread, hreply⟩ | ⟨rfl, hnone⟩)
    · have hle := (hmembers.suffix hread).length_le
      exact ⟨some pairs, middle, hread, (readFrame_eq_ok_iff hle).2 hreply⟩
    · exact ⟨none, rest, readMembers_eq_none_iff.2 hnone, rfl⟩

/-- An attribute that says how many pairs it has never stands for a value: what is read is read from
the octets behind the attribute, and whatever can be read there is read. Where minus one is
announced instead, the null is read, nothing behind that line is taken, and no attribute is
there. -/
theorem decode_attributes_iff (limits : Limits) (tail rest : Bytes) (reply : Reply) :
    let data := Marker.attributes.byte :: tail
    ((¬∃ more, AnnouncesNone tail more) →
      (decode limits data = .ok (reply, rest) ↔ ReadsBehind limits data reply rest)) ∧
    ∀ more, AnnouncesNone tail more →
      (decode limits data = .ok (reply, rest) ↔ reply = .null ∧ rest = more) ∧
        ¬ReadsBehind limits data reply rest := by
  intro data
  rw [decode_marked_eq_ok_iff]
  refine ⟨fun hcount => ?_, fun more hmore => ⟨⟨?_, ?_⟩, ?_⟩⟩
  · exact or_iff_left fun h => hcount ⟨rest, h.2⟩
  · rintro (hbehind | ⟨rfl, hrest⟩)
    · exact absurd hbehind (not_readsBehind_of_announcesNone hmore)
    · exact ⟨rfl, hmore.unique hrest⟩
  · rintro ⟨rfl, rfl⟩
    exact .inr ⟨rfl, hmore⟩
  · exact not_readsBehind_of_announcesNone hmore

/-- A padded count, an attribute in the pair, and an empty map behind it all; and a padded minus one
in front of an integer. -/
theorem decode_attributes_iff_padded :
    let limits : Limits := ⟨2, 1, 0⟩
    let counted : Bytes := [43, 48, 49, 13, 10, 43, 97, 13, 10, 124, 48, 13, 10, 58, 55, 13, 10,
      37, 48, 13, 10, 43]
    let absent : Bytes := [45, 48, 49, 13, 10, 58, 55, 13, 10]
    (¬∃ more, AnnouncesNone counted more) ∧
      ReadsBehind limits (Marker.attributes.byte :: counted) (.map []) [43] ∧
      AnnouncesNone absent [58, 55, 13, 10] ∧
      decode limits (Marker.attributes.byte :: absent) = .ok (.null, [58, 55, 13, 10]) := by
  intro limits counted absent
  have hcounted : ¬∃ more, AnnouncesNone counted more := by
    rintro ⟨more, h⟩
    have hnone : readLength counted = .ok (none, more) := readLength_eq_ok_iff.2 h
    have hone : readLength counted = .ok (some 1, counted.drop 5) := rfl
    cases hone.symm.trans hnone
  have habsent : AnnouncesNone absent [58, 55, 13, 10] :=
    ⟨[45, 48, 49, 13, 10], ⟨[45, 48, 49], -1, rfl, by decide, by decide, by decide⟩, rfl⟩
  have hdecode : decode limits (Marker.attributes.byte :: counted) = .ok (.map [], [43]) := rfl
  exact ⟨hcounted, ((decode_attributes_iff limits counted _ _).1 hcounted).1 hdecode, habsent,
    ((decode_attributes_iff limits absent _ _).2 _ habsent).1.2 ⟨rfl, rfl⟩⟩

/-- Minus one in front of an integer: the null is read, and the integer is left for whoever asks for
the next reply. -/
theorem not_readsBehind_of_decode : ¬∀ (limits : Limits) (tail rest : Bytes) (reply : Reply),
    decode limits (Marker.attributes.byte :: tail) = .ok (reply, rest) →
      ReadsBehind limits (Marker.attributes.byte :: tail) reply rest := by
  intro h
  have hdecode : decode {} (Marker.attributes.byte :: [45, 49, 13, 10, 58, 55, 13, 10]) =
      .ok (.null, [58, 55, 13, 10]) := rfl
  have hnone : AnnouncesNone [45, 49, 13, 10, 58, 55, 13, 10] [58, 55, 13, 10] :=
    ⟨[45, 49, 13, 10], ⟨[45, 49], -1, rfl, by decide, by decide, by decide⟩, rfl⟩
  exact not_readsBehind_of_announcesNone hnone (h _ _ _ _ hdecode)

end Reply

end ClusterBatch
