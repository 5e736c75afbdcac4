import ClusterBatch.Proofs.Reader

/-!
# Frames off a growing buffer

A frame that is read stays read when more octets come in, and so does a fault; only a frame that
is not complete is judged anew. The readers of replies are followed step by step to show it: a
line, a payload, the members of an aggregate, and what stands behind each marker. They are followed
once for all relations between readers that hold step by step.

Main statements: `Reply.decode_extends` for one frame, `Reply.decode_stable` for frames taken off
the front of octets that arrive in chunks.
-/

namespace ClusterBatch

namespace Reply

open Reader

variable {α : Type} {limits : Limits}

/-! ## Lines and payloads -/

/-- A line is read up to its first carriage return, which the line feed has to follow. -/
theorem readLine_eq_ok_iff {data line rest : Bytes} :
    readLine data = .ok (line, rest) ↔ data = line ++ Bytes.crlf ++ rest ∧ Bytes.cr ∉ line := by
  constructor
  · intro h
    have hsplit := List.takeWhile_append_dropWhile (p := (· ≠ Bytes.cr)) (l := data)
    have hhead := List.head?_dropWhile_not (· ≠ Bytes.cr) data
    unfold readLine at h
    split at h
    · next first b tail hdrop =>
      split at h
      · next hb =>
        obtain ⟨rfl, rfl⟩ := Prod.mk.inj (Except.ok.inj h)
        rw [hdrop] at hsplit hhead
        refine ⟨?_, fun hmem => by simpa using List.all_eq_true.1 List.all_takeWhile _ hmem⟩
        rw [← hsplit]
        simp_all [Bytes.crlf]
      · exact nomatch h
    · exact nomatch h
  · rintro ⟨rfl, hline⟩
    have htake : ∀ b ∈ line, (decide (b ≠ Bytes.cr)) = true :=
      fun b hb => by simpa using fun h : b = Bytes.cr => hline (h ▸ hb)
    unfold readLine
    simp only [List.append_assoc, List.takeWhile_append_of_pos htake,
      List.dropWhile_append_of_pos htake]
    simp [Bytes.crlf]

theorem readOctets_eq_ok_iff {count : Nat} {data payload rest : Bytes} :
    readOctets count data = .ok (payload, rest) ↔
      data = payload ++ Bytes.crlf ++ rest ∧ payload.length = count := by
  constructor
  · intro h
    have hsplit := List.take_append_drop count data
    unfold readOctets at h
    split at h
    · next a b tail hdrop =>
      split at h
      · next hab =>
        obtain ⟨rfl, rfl⟩ := Prod.mk.inj (Except.ok.inj h)
        obtain ⟨rfl, rfl⟩ := hab
        have hlen := congrArg List.length hdrop
        rw [hdrop] at hsplit
        refine ⟨by simpa [Bytes.crlf] using hsplit.symm, ?_⟩
        simp at hlen ⊢
        omega
      · exact nomatch h
    · exact nomatch h
  · rintro ⟨rfl, rfl⟩
    simp [readOctets, Bytes.crlf]

theorem readOctet_extends : Extends readOctet readOctet where
  suffix {data _ _} h := by
    cases data with
    | nil => exact nomatch h
    | cons b tail =>
      obtain ⟨rfl, rfl⟩ := Prod.mk.inj (Except.ok.inj h)
      exact List.suffix_cons b tail
  value {data _ _} h more := by
    cases data with
    | nil => exact nomatch h
    | cons b tail =>
      obtain ⟨rfl, rfl⟩ := Prod.mk.inj (Except.ok.inj h)
      rfl
  fault {data e} h hne := by
    cases data with
    | nil => exact absurd (Except.error.inj h).symm hne
    | cons b tail => exact nomatch h

theorem readLine_extends : Extends readLine readLine where
  suffix h := ⟨_, (readLine_eq_ok_iff.1 h).1.symm⟩
  value h more := by
    obtain ⟨rfl, hline⟩ := readLine_eq_ok_iff.1 h
    exact readLine_eq_ok_iff.2 ⟨List.append_assoc .., hline⟩
  fault h hne more := by
    unfold readLine at h ⊢
    split at h
    · next first b tail hdrop =>
      rw [List.dropWhile_append, hdrop]
      split at h
      · exact nomatch h
      · next hb => simpa [hb] using h
    · exact absurd (Except.error.inj h).symm hne

theorem readOctets_extends (count : Nat) : Extends (readOctets count) (readOctets count) where
  suffix h := ⟨_, (readOctets_eq_ok_iff.1 h).1.symm⟩
  value h more := by
    obtain ⟨rfl, hlen⟩ := readOctets_eq_ok_iff.1 h
    exact readOctets_eq_ok_iff.2 ⟨List.append_assoc .., hlen⟩
  fault {data _} h hne more := by
    unfold readOctets at h ⊢
    split at h
    · next a b tail hdrop =>
      have hlen := congrArg List.length hdrop
      rw [List.drop_append_of_le_length (by simp at hlen; omega), hdrop]
      split at h
      · exact nomatch h
      · next hab => simpa [hab] using h
    · exact absurd (Except.error.inj h).symm hne

/-! ## Relations that hold step by step -/

/-- A relation between readers that holds of the readers of lines and payloads and themselves, and
of readers that take related steps one after the other. -/
structure Congruence (related : (α : Type) → Reader α → Reader α → Prop) : Prop where
  line : related _ readLine readLine
  octets (count : Nat) : related _ (readOctets count) (readOctets count)
  pure {α : Type} (a : α) : related α (pure a) (pure a)
  throw {α : Type} (e : DecodeError) : related α (throw e) (throw e)
  bind {α β : Type} {read wider : Reader α} {next wider' : α → Reader β} (h : related α read wider)
    (hnext : ∀ a, related β (next a) (wider' a)) : related β (read >>= next) (wider >>= wider')

theorem congruence_extends : Congruence fun _ => Extends where
  line := readLine_extends
  octets := readOctets_extends
  pure := .pure
  throw := .throw
  bind := .bind

namespace Congruence

variable {related : (α : Type) → Reader α → Reader α → Prop} (h : Congruence related)

include h

theorem map {α β : Type} {read wider : Reader α} (f : α → β) (hread : related α read wider) :
    related β (f <$> read) (f <$> wider) := by
  rw [map_eq_pure_bind, map_eq_pure_bind]
  exact h.bind hread fun a => h.pure (f a)

theorem readInteger : related _ readInteger readInteger := by
  refine h.bind h.line fun line => ?_
  cases Numeral.int64? line.chars with
  | some n => exact h.pure n
  | none => exact h.throw _

theorem readLength : related _ readLength readLength := by
  refine h.bind h.readInteger fun n => ?_
  by_cases hone : n.toInt = -1
  · simpa [hone] using h.pure none
  · by_cases hneg : n.toInt < 0
    · simpa [hone, hneg] using h.throw DecodeError.invalidLength
    · simpa [hone, hneg] using h.pure (some n.toInt.toNat)

theorem readPayload (limits : Limits) : related _ (readPayload limits) (readPayload limits) := by
  refine h.bind h.readLength fun length => ?_
  cases length with
  | none => exact h.pure none
  | some length =>
    by_cases hlong : limits.payload < length
    · simpa [hlong] using h.throw (DecodeError.payloadTooLong length limits.payload)
    · simpa [hlong] using h.map some (h.octets length)

theorem readPresentPayload (limits : Limits) :
    related _ (readPresentPayload limits) (readPresentPayload limits) := by
  refine h.bind (h.readPayload limits) fun payload => ?_
  cases payload with
  | some payload => exact h.pure payload
  | none => exact h.throw _

theorem readCount (limits : Limits) : related _ (readCount limits) (readCount limits) := by
  refine h.bind h.readLength fun count => ?_
  cases count with
  | none => exact h.pure none
  | some count =>
    by_cases hmany : limits.elements < count
    · simpa [hmany] using h.throw (DecodeError.tooManyElements count)
    · simpa [hmany] using h.pure (some count)

/-! ## Frames inside frames -/

theorem readMany {α : Type} {read wider : Reader α} (hread : related α read wider) (count : Nat) :
    related _ (readMany read count) (readMany wider count) := by
  induction count with
  | zero => exact h.pure []
  | succ count ih =>
    exact h.bind hread fun first => h.bind ih fun others => h.pure (first :: others)

theorem readPair {α : Type} {read wider : Reader α} (hread : related α read wider) :
    related _ (readPair read) (readPair wider) :=
  h.bind hread fun key => h.bind hread fun value => h.pure (key, value)

theorem readMembers {α : Type} (limits : Limits) {read wider : Reader α}
    (hread : related α read wider) (depth : Nat) :
    related _ (readMembers limits depth read) (readMembers limits depth wider) := by
  refine h.bind (h.readCount limits) fun count => ?_
  cases count with
  | none => exact h.pure none
  | some count =>
    by_cases hdepth : limits.depth < depth
    · simpa [hdepth] using h.throw (DecodeError.tooDeep depth)
    · simpa [hdepth] using h.map some (h.readMany hread count)

/-- What stands behind a marker is read in the same way as the frames inside it. -/
theorem readContents {inner wider : Nat → Reader Reply}
    (hinner : ∀ depth, related _ (inner depth) (wider depth)) (depth : Nat) (marker : Marker) :
    related _ (readContents limits inner depth marker)
      (readContents limits wider depth marker) := by
  have items (build : List Reply → Reply) :=
    h.map (ofMembers build) (h.readMembers limits (hinner (depth + 1)) (depth + 1))
  have pairs := h.readMembers limits (h.readPair (hinner (depth + 1))) (depth + 1)
  cases marker with
  | simple => exact h.map Reply.simple h.line
  | error => exact h.map Reply.error h.line
  | bigNumber => exact h.map Reply.bigNumber h.line
  | integer => exact h.map Reply.integer h.readInteger
  | bulkError => exact h.map Reply.bulkError (h.readPresentPayload limits)
  | array => exact items .array
  | set => exact items .set
  | push => exact items .push
  | map => exact h.map (ofMembers .map) pairs
  | bulk =>
    refine h.bind (h.readPayload limits) fun payload => ?_
    cases payload with
    | some payload => exact h.pure (Reply.bulk payload)
    | none => exact h.pure Reply.null
  | verbatim =>
    refine h.bind (h.readPresentPayload limits) fun payload => ?_
    cases verbatimOfPayload? payload with
    | some reply => exact h.pure reply
    | none => exact h.throw _
  | null =>
    refine h.bind h.line fun line => ?_
    by_cases hline : line = []
    · simpa [hline] using h.pure Reply.null
    · simpa [hline] using h.throw (DecodeError.malformed .nullWithData)
  | boolean =>
    refine h.bind h.line fun line => ?_
    cases booleanOfLine? line with
    | some value => exact h.pure (Reply.boolean value)
    | none => exact h.throw _
  | double =>
    refine h.bind h.line fun line => ?_
    cases Double.ofText? line.chars with
    | some value => exact h.pure (Reply.double value)
    | none => exact h.throw _
  | attributes =>
    refine h.bind pairs fun entries => ?_
    cases entries with
    | some entries => exact hinner depth
    | none => exact h.pure Reply.null

end Congruence

/-- A reader that may enter more aggregates reads whatever one that may enter fewer reads. -/
theorem readFrame_extends {bound bound' : Nat} (h : bound ≤ bound') (depth : Nat) :
    Extends (readFrame limits bound depth) (readFrame limits bound' depth) := by
  induction bound generalizing bound' depth with
  | zero => exact .incomplete
  | succ bound ih =>
    obtain ⟨bound', rfl⟩ : ∃ n, bound' = n + 1 := ⟨bound' - 1, by omega⟩
    refine readOctet_extends.bind fun octet => ?_
    cases Marker.ofByte? octet with
    | some marker =>
      exact congruence_extends.readContents (fun depth => ih (by omega) depth) depth marker
    | none => exact .throw _

theorem decode_extends (limits : Limits) : Extends (decode limits) (decode limits) where
  suffix h := (readFrame_extends (Nat.le_refl _) 0).suffix h
  value h more := (readFrame_extends (by simp) 0).value h more
  fault h hne more := (readFrame_extends (by simp) 0).fault h hne more

/-- Every frame has a marker, so reading one leaves fewer octets. -/
theorem length_lt_of_decode {data rest : Bytes} {reply : Reply}
    (h : decode limits data = .ok (reply, rest)) : rest.length < data.length := by
  cases data with
  | nil => exact nomatch h
  | cons octet tail =>
    obtain ⟨first, middle, hfirst, hrest⟩ := bind_eq_ok.1 h
    obtain ⟨rfl, rfl⟩ := Prod.mk.inj (Except.ok.inj hfirst)
    have hsuffix : rest <:+ tail := by
      cases hm : Marker.ofByte? octet with
      | some marker =>
        simp only [hm] at hrest
        exact (congruence_extends.readContents (readFrame_extends (Nat.le_refl _)) 0
          marker).suffix hrest
      | none =>
        simp only [hm] at hrest
        exact nomatch hrest
    exact Nat.lt_succ_of_le hsuffix.length_le

/-! ## Frames one after the other -/

theorem decodeAll_go_eq (limits : Limits) {bound : Nat} {data : Bytes} (h : data.length ≤ bound) :
    decodeAll.go limits bound data = decodeAll limits data := by
  unfold decodeAll
  induction bound using Nat.strongRecOn generalizing data with
  | _ bound ih =>
    match bound, hd : data.length with
    | 0, n => rw [show n = 0 by omega]
    | bound + 1, 0 =>
      obtain rfl := List.eq_nil_of_length_eq_zero hd
      rfl
    | bound + 1, n + 1 =>
      unfold decodeAll.go
      cases hdec : decode limits data with
      | error e => rfl
      | ok p =>
        have hlt := length_lt_of_decode hdec
        simp only
        rw [ih bound (by omega) (by omega), ih n (by omega) (by omega)]

theorem decodeAll_of_error {data : Bytes} {e : DecodeError} (h : decode limits data = .error e) :
    decodeAll limits data = ([], e, data) := by
  rw [← decodeAll_go_eq limits (Nat.le_succ _), decodeAll.go, h]

theorem decodeAll_of_ok {data rest : Bytes} {reply : Reply}
    (h : decode limits data = .ok (reply, rest)) :
    decodeAll limits data = (reply :: (decodeAll limits rest).1, (decodeAll limits rest).2) := by
  have hlt := length_lt_of_decode h
  rw [← decodeAll_go_eq limits (Nat.le_succ _), decodeAll.go, h]
  simp only
  rw [decodeAll_go_eq limits (by omega)]

/-- No further frame can be read where reading frames stops. -/
theorem decode_stop (limits : Limits) (data : Bytes) :
    decode limits (decodeAll limits data).2.2 = .error (decodeAll limits data).2.1 := by
  induction hn : data.length using Nat.strongRecOn generalizing data with
  | _ n ih =>
    cases h : decode limits data with
    | error e => rw [decodeAll_of_error h, h]
    | ok p =>
      have hlt := length_lt_of_decode h
      rw [decodeAll_of_ok h]
      exact ih _ (by omega) p.2 rfl

/-- Frames are read from octets in two parts by going on where the first part stops. -/
theorem decodeAll_append (limits : Limits) (data more : Bytes) :
    decodeAll limits (data ++ more) =
      let (replies, _, left) := decodeAll limits data
      (replies ++ (decodeAll limits (left ++ more)).1, (decodeAll limits (left ++ more)).2) := by
  induction hn : data.length using Nat.strongRecOn generalizing data with
  | _ n ih =>
    cases h : decode limits data with
    | error e => simp [decodeAll_of_error h]
    | ok p =>
      have hlt := length_lt_of_decode h
      rw [decodeAll_of_ok h, decodeAll_of_ok ((decode_extends limits).value h more),
        ih _ (by omega) p.2 rfl]
      rfl

/-- Takes whole frames off the front of a buffer to which one chunk after another is added, up to
the first fault. Returns the replies and why no further one was read. -/
def feed (limits : Limits) : Bytes → List Bytes → List Reply × DecodeError
  | _, [] => ([], .incomplete)
  | buffer, chunk :: chunks =>
    match decodeAll limits (buffer ++ chunk) with
    | (replies, .incomplete, left) =>
      let (more, stop) := feed limits left chunks
      (replies ++ more, stop)
    | (replies, fault, _) => (replies, fault)

theorem feed_eq_decodeAll (chunks : List Bytes) {buffer : Bytes}
    (h : decode limits buffer = .error .incomplete) :
    feed limits buffer chunks =
      ((decodeAll limits (buffer ++ chunks.flatten)).1,
        (decodeAll limits (buffer ++ chunks.flatten)).2.1) := by
  induction chunks generalizing buffer with
  | nil => simp [feed, decodeAll_of_error h]
  | cons chunk chunks ih =>
    have hstop := decode_stop limits (buffer ++ chunk)
    rw [List.flatten_cons, ← List.append_assoc, decodeAll_append, feed]
    generalize decodeAll limits (buffer ++ chunk) = result at hstop ⊢
    obtain ⟨replies, stop, left⟩ := result
    by_cases hi : stop = .incomplete
    · subst hi
      simp [ih hstop]
    · have hfault := decodeAll_of_error ((decode_extends limits).fault hstop hi chunks.flatten)
      cases stop <;> simp_all

/-- Reading does not change its mind when more octets come in. A frame that can be read is read in
the same way whatever follows it, and as soon as one of its octets is missing more are asked for; a
fault stays that fault. Frames and the first fault are therefore the same however the octets are cut
into chunks. -/
theorem decode_stable (limits : Limits) :
    (∀ data reply rest, decode limits data = .ok (reply, rest) →
      (∀ more, decode limits (data ++ more) = .ok (reply, rest ++ more)) ∧
        ∃ used, data = used ++ rest ∧
          ∀ part, part <+: used → part ≠ used → decode limits part = .error .incomplete) ∧
    (∀ data e, decode limits data = .error e → e ≠ .incomplete →
      ∀ more, decode limits (data ++ more) = .error e) ∧
    ∀ chunks, feed limits [] chunks =
      ((decodeAll limits chunks.flatten).1, (decodeAll limits chunks.flatten).2.1) := by
  have hdec := decode_extends limits
  refine ⟨fun data reply rest h => ⟨hdec.value h, ?_⟩, fun data e => hdec.fault, fun chunks => ?_⟩
  · obtain ⟨used, hdata⟩ := hdec.suffix h
    exact ⟨used, hdata.symm, fun part => hdec.incomplete_of_strict_prefix h hdata.symm⟩
  · exact feed_eq_decodeAll chunks rfl

/-- An integer in front of the first octet of another frame. -/
theorem decode_stable_integer :
    decode {} [58, 49, 13, 10] = .ok (.integer 1, []) ∧
      decode {} ([58, 49, 13, 10] ++ [43]) = .ok (.integer 1, [] ++ [43]) :=
  ⟨rfl, ((decode_stable {}).1 _ _ _ rfl).1 [43]⟩

end Reply

end ClusterBatch
