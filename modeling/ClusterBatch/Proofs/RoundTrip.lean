import ClusterBatch.Proofs.Decodable
import ClusterBatch.Proofs.DoubleText
import ClusterBatch.Reply.Encode

/-!
# Replies read back

What is written for a reply is read as that reply, whatever follows it, if the reply keeps to the
limits of the reader; and if it does not, no reader with these limits returns it. The induction is
on the reply, at every depth and in front of any octets.

Main statements: `Reply.readsBack` for frames at any depth, `Reply.decode_encode_iff`.
-/

namespace ClusterBatch

namespace Reply

open Reader

variable {α β : Type} {limits : Limits} {bound depth : Nat}

/-! ## Lines and counts -/

theorem readLine_append (line rest : Bytes) (h : Bytes.cr ∉ line) :
    readLine (line ++ Bytes.crlf ++ rest) = .ok (line, rest) :=
  readLine_eq_ok_iff.2 ⟨rfl, h⟩

theorem readInteger_append {text : List Char} {n : Int64} (rest : Bytes)
    (hv : ∀ c ∈ text, IsVisible c) (h : Numeral.int64? text = some n) :
    readInteger (Bytes.ofChars text ++ Bytes.crlf ++ rest) = .ok (n, rest) := by
  refine readInteger_eq_ok_iff.2 ⟨Bytes.ofChars text, rfl, Bytes.cr_not_mem_ofChars hv, ?_⟩
  rw [Bytes.chars_ofChars hv, h]

theorem isNumeralLine_ofNat {n : Nat} (h : n < 0x8000000000000000) :
    IsNumeralLine (Bytes.ofChars (Numeral.ofNat n) ++ Bytes.crlf) n := by
  have hint : (Int64.ofInt n).toInt = n := Int64.toInt_ofInt_of_le (by omega) (by omega)
  have hread : Numeral.int64? (Numeral.ofNat n) = some (Int64.ofInt n) := by
    have hof := Numeral.int64?_ofInt (Int64.ofInt n)
    rwa [hint] at hof
  refine ⟨_, Int64.ofInt n, rfl, Bytes.cr_not_mem_ofChars Numeral.isVisible_ofNat, ?_, hint⟩
  rw [Bytes.chars_ofChars Numeral.isVisible_ofNat, hread]

theorem readLength_append {n : Nat} (rest : Bytes) (h : n < 0x8000000000000000) :
    readLength (Bytes.ofChars (Numeral.ofNat n) ++ Bytes.crlf ++ rest) = .ok (some n, rest) :=
  readLength_eq_ok_iff.2 ⟨_, isNumeralLine_ofNat h, rfl⟩

theorem readLength_absent (rest : Bytes) :
    readLength (Bytes.ofChars ['-', '1'] ++ Bytes.crlf ++ rest) = .ok (none, rest) := by
  have hline : IsNumeralLine (Bytes.ofChars ['-', '1'] ++ Bytes.crlf) (-1) :=
    ⟨Bytes.ofChars ['-', '1'], -1, rfl, by decide, by decide, by decide⟩
  exact readLength_eq_ok_iff.2 ⟨_, hline, rfl⟩

theorem readPayload_append {data : Bytes} (rest : Bytes) (h : data.length < 0x8000000000000000)
    (hle : data.length ≤ limits.payload) :
    readPayload limits
      (Bytes.ofChars (Numeral.ofNat data.length) ++ Bytes.crlf ++ (data ++ Bytes.crlf ++ rest))
      = .ok (some data, rest) := by
  unfold readPayload
  rw [bind_of_ok (readLength_append _ h)]
  simp only [Nat.not_lt.2 hle, if_false]
  exact map_of_ok (readOctets_eq_ok_iff.2 ⟨rfl, rfl⟩)

theorem readCount_append {n : Nat} (rest : Bytes) (h : n < 0x8000000000000000)
    (hle : n ≤ limits.elements) :
    readCount limits (Bytes.ofChars (Numeral.ofNat n) ++ Bytes.crlf ++ rest)
      = .ok (some n, rest) := by
  refine readCount_eq_ok_iff.2 ⟨?_, _, isNumeralLine_ofNat h, rfl⟩
  rintro _ ⟨⟩
  exact hle

/-! ## Members -/

theorem readMany_append {read : Reader α} {write : β → Bytes} (value : β → α) {members : List β}
    (rest : Bytes) (h : ∀ b ∈ members, ∀ rest, read (write b ++ rest) = .ok (value b, rest)) :
    readMany read members.length (members.flatMap write ++ rest)
      = .ok (members.map value, rest) := by
  induction members with
  | nil => rfl
  | cons b members ih =>
    rw [List.flatMap_cons, List.append_assoc, List.length_cons, readMany,
      bind_of_ok (h b List.mem_cons_self _),
      bind_of_ok (ih fun b hb => h b (List.mem_cons_of_mem _ hb))]
    rfl

theorem readMembers_append {read : Reader α} {write : β → Bytes} (value : β → α)
    {members : List β} (rest : Bytes)
    (hlt : members.length < 0x8000000000000000) (hle : members.length ≤ limits.elements)
    (hdepth : depth < limits.depth)
    (h : ∀ b ∈ members, ∀ rest, read (write b ++ rest) = .ok (value b, rest)) :
    readMembers limits (depth + 1) read
      (Bytes.ofChars (Numeral.ofNat members.length) ++ Bytes.crlf ++
        (members.flatMap write ++ rest))
      = .ok (some (members.map value), rest) := by
  have hmany := readMany_append value rest h
  exact readMembers_eq_ok_iff.2
    (.inr ⟨_, _, _, rfl, readCount_append _ hlt hle, Nat.succ_le_of_lt hdepth, hmany⟩)

/-! ## Frames -/

theorem readFrame_marker (limits : Limits) (bound depth : Nat) (marker : Marker) (data : Bytes) :
    readFrame limits (bound + 1) depth (marker.byte :: data)
      = readContents limits (readFrame limits bound) depth marker data := by
  have hoctet : readOctet (marker.byte :: data) = .ok (marker.byte, data) := rfl
  unfold readFrame
  rw [bind_of_ok hoctet, Marker.ofByte?_byte]

theorem encodeItems_eq (items : List Reply) : encodeItems items = items.flatMap encode := by
  induction items with
  | nil => rfl
  | cons item items ih => rw [encodeItems, ih, List.flatMap_cons]

theorem encodeEntries_eq (entries : List (Reply × Reply)) :
    encodeEntries entries = entries.flatMap fun entry => encode entry.1 ++ encode entry.2 := by
  induction entries with
  | nil => rfl
  | cons entry entries ih => rw [encodeEntries, ih, List.flatMap_cons]

theorem countable_items {build : List Reply → Reply} {items : List Reply}
    (hcount : (build items).count? = some items.length)
    (hparts : (build items).parts = build items :: partsOfItems items)
    (h : (build items).Countable) :
    items.length < 0x8000000000000000 ∧ ∀ item ∈ items, item.Countable := by
  rw [Countable, hparts, partsOfItems_eq] at h
  refine ⟨(h _ List.mem_cons_self).1 _ hcount, fun item hitem part hpart => ?_⟩
  exact h part (List.mem_cons_of_mem _ (List.mem_flatMap.2 ⟨item, hitem, hpart⟩))

theorem countable_map {entries : List (Reply × Reply)} (h : (map entries).Countable) :
    entries.length < 0x8000000000000000 ∧
      ∀ entry ∈ entries, entry.1.Countable ∧ entry.2.Countable := by
  rw [Countable, parts, partsOfEntries_eq] at h
  have hentry {entry part} (hentry : entry ∈ entries)
      (hpart : part ∈ entry.1.parts ++ entry.2.parts) :=
    h part (List.mem_cons_of_mem _ (List.mem_flatMap.2 ⟨entry, hentry, hpart⟩))
  exact ⟨(h _ List.mem_cons_self).1 _ rfl, fun entry he =>
    ⟨fun part hp => hentry he (List.mem_append_left _ hp),
      fun part hp => hentry he (List.mem_append_right _ hp)⟩⟩

theorem length_le_of_mem (write : α → Bytes) {members : List α} {a : α} (h : a ∈ members) :
    (write a).length ≤ (members.flatMap write).length := by
  induction members with
  | nil => exact nomatch h
  | cons b members ih =>
    rw [List.flatMap_cons, List.length_append]
    rcases List.mem_cons.1 h with rfl | h
    · omega
    · have := ih h
      omega

/-- An aggregate is read back if its members are, each as its value. -/
theorem readFrame_aggregate {marker : Marker} {build : List α → Reply} {write : β → Bytes}
    {read : (Nat → Reader Reply) → Reader α} (value : β → α) {members : List β} (rest : Bytes)
    (hread : ∀ inner, readContents limits inner depth marker
      = ofMembers build <$> readMembers limits (depth + 1) (read inner))
    (hlt : members.length < 0x8000000000000000)
    (hwithin : depth < limits.depth ∧ members.length ≤ limits.elements)
    (hbound : (encodeCount marker members.length ++ members.flatMap write).length ≤ bound)
    (h : ∀ b ∈ members, ∀ bound rest, (write b).length ≤ bound →
      read (readFrame limits bound) (write b ++ rest) = .ok (value b, rest)) :
    readFrame limits bound depth
      (encodeCount marker members.length ++ members.flatMap write ++ rest)
      = .ok (build (members.map value), rest) := by
  cases bound with
  | zero => simp [encodeCount, encodeLine] at hbound
  | succ bound =>
    have hmember : ∀ b ∈ members, ∀ rest,
        read (readFrame limits bound) (write b ++ rest) = .ok (value b, rest) := by
      intro b hb rest
      have hle := length_le_of_mem write hb
      simp only [encodeCount, encodeLine, List.length_append, List.length_cons] at hbound
      exact h b hb bound rest (by omega)
    rw [encodeCount, encodeLine, List.append_assoc, List.cons_append, List.cons_append,
      readFrame_marker, hread]
    exact map_of_ok (readMembers_append value rest hlt hwithin.2 hwithin.1 hmember)

/-- A frame that begins with a line is read back if what stands behind its marker is. -/
theorem readFrame_line {marker : Marker} {text more : Bytes} {reply : Reply} (rest : Bytes)
    (hbound : (encodeLine marker text ++ more).length ≤ bound)
    (h : ∀ inner, readContents limits inner depth marker
      (text ++ Bytes.crlf ++ (more ++ rest)) = .ok (reply, rest)) :
    readFrame limits bound depth (encodeLine marker text ++ more ++ rest) = .ok (reply, rest) := by
  cases bound with
  | zero => simp [encodeLine] at hbound
  | succ bound =>
    rw [encodeLine, List.append_assoc, List.cons_append, List.cons_append, readFrame_marker]
    exact h _

theorem readContents_text {inner : Nat → Reader Reply} {marker : Marker} {build : Bytes → Reply}
    {text rest : Bytes} (hread : readContents limits inner depth marker = build <$> readLine)
    (h : Bytes.cr ∉ text) :
    readContents limits inner depth marker (text ++ Bytes.crlf ++ rest)
      = .ok (build text, rest) := by
  rw [hread]
  exact map_of_ok (readLine_append text rest h)

theorem readPresentPayload_append {data : Bytes} (rest : Bytes)
    (h : data.length < 0x8000000000000000) (hle : data.length ≤ limits.payload) :
    readPresentPayload limits
      (Bytes.ofChars (Numeral.ofNat data.length) ++ Bytes.crlf ++ (data ++ Bytes.crlf ++ rest))
      = .ok (data, rest) := by
  unfold readPresentPayload
  rw [bind_of_ok (readPayload_append rest h hle)]
  rfl

theorem readPayload_absent (rest : Bytes) :
    readPayload limits (Bytes.ofChars ['-', '1'] ++ Bytes.crlf ++ rest) = .ok (none, rest) := by
  unfold readPayload
  rw [bind_of_ok (readLength_absent rest)]
  rfl

theorem readContents_boolean {inner : Nat → Reader Reply} (value : Bool) (rest : Bytes) :
    readContents limits inner depth .boolean
      (Bytes.ofChars [if value then 't' else 'f'] ++ Bytes.crlf ++ rest)
      = .ok (.boolean value, rest) := by
  cases value <;> rfl

theorem readContents_double {inner : Nat → Reader Reply} (value : Double) (rest : Bytes) :
    readContents limits inner depth .double
      (Bytes.ofChars value.replyText ++ Bytes.crlf ++ rest) = .ok (.double value, rest) := by
  have hv := value.isVisible_replyText
  simp only [readContents]
  rw [bind_of_ok (readLine_append _ rest (Bytes.cr_not_mem_ofChars hv)), Bytes.chars_ofChars hv,
    value.ofText?_replyText]
  rfl

/-- Replies without members are read back. -/
theorem readFrame_leaf {reply : Reply} (rest : Bytes) (hleaf : reply.count? = none)
    (hfits : reply.Fits limits)
    (hlt : ∀ length ∈ reply.payloadLength?, length < 0x8000000000000000)
    (hbound : (encode reply).length ≤ bound) :
    readFrame limits bound depth (encode reply ++ rest) = .ok (reply, rest) := by
  obtain ⟨hline, -, hpayload⟩ := hfits
  -- Every frame is a line and what else belongs to it.
  have framed {marker : Marker} {text : Bytes} (more : Bytes)
      (he : encode reply = encodeLine marker text ++ more)
      (h : ∀ inner, readContents limits inner depth marker
        (text ++ Bytes.crlf ++ (more ++ rest)) = .ok (reply, rest)) :
      readFrame limits bound depth (encode reply ++ rest) = .ok (reply, rest) := by
    rw [he] at hbound ⊢
    exact readFrame_line rest hbound h
  cases reply with
  | simple text =>
    exact framed [] (List.append_nil _).symm fun inner => readContents_text rfl (hline text rfl)
  | error text =>
    exact framed [] (List.append_nil _).symm fun inner => readContents_text rfl (hline text rfl)
  | bigNumber text =>
    exact framed [] (List.append_nil _).symm fun inner => readContents_text rfl (hline text rfl)
  | integer value =>
    exact framed [] (List.append_nil _).symm fun inner =>
      map_of_ok (readInteger_append rest Numeral.isVisible_ofInt (Numeral.int64?_ofInt value))
  | boolean value =>
    exact framed [] (List.append_nil _).symm fun inner => readContents_boolean value rest
  | double value =>
    exact framed [] (List.append_nil _).symm fun inner => readContents_double value rest
  | null =>
    refine framed [] (List.append_nil _).symm fun inner => ?_
    unfold readContents
    exact bind_of_ok (readPayload_absent rest)
  | bulk data =>
    refine framed (data ++ Bytes.crlf) (List.append_assoc ..) fun inner => ?_
    unfold readContents
    exact bind_of_ok (readPayload_append rest (hlt _ rfl) (hpayload _ rfl))
  | bulkError message =>
    exact framed (message ++ Bytes.crlf) (List.append_assoc ..) fun inner =>
      map_of_ok (readPresentPayload_append rest (hlt _ rfl) (hpayload _ rfl))
  | verbatim format data =>
    have hlen : (format.toList ++ Bytes.ofChar ':' :: data).length = data.length + 4 := by
      simp [VerbatimFormat.toList]
    refine framed ((format.toList ++ Bytes.ofChar ':' :: data) ++ Bytes.crlf)
      (List.append_assoc ..) fun inner => ?_
    simp only [readContents]
    rw [bind_of_ok (readPresentPayload_append rest (hlen ▸ hlt _ rfl) (hlen ▸ hpayload _ rfl))]
    rfl
  | array items => exact nomatch hleaf
  | set items => exact nomatch hleaf
  | push items => exact nomatch hleaf
  | map entries => exact nomatch hleaf

/-- Whether a reply is read back at every depth where it keeps to the limits, whatever follows it
and whatever bound its octets stay below. -/
def ReadsBack (limits : Limits) (reply : Reply) : Prop :=
  ∀ bound depth rest, reply.Countable → reply.WithinAt limits depth →
    (encode reply).length ≤ bound →
      readFrame limits bound depth (encode reply ++ rest) = .ok (reply, rest)

theorem readsBack_items {marker : Marker} {build : List Reply → Reply} {items : List Reply}
    (hcount : (build items).count? = some items.length)
    (hnesting : (build items).nesting = nestingOfItems items + 1)
    (hparts : (build items).parts = build items :: partsOfItems items)
    (hencode : encode (build items) = encodeCount marker items.length ++ encodeItems items)
    (hread : ∀ inner depth, readContents limits inner depth marker
      = ofMembers build <$> readMembers limits (depth + 1) (inner (depth + 1)))
    (ih : ∀ item ∈ items, item.ReadsBack limits) : (build items).ReadsBack limits := by
  intro bound depth rest hcountable hwithin hbound
  obtain ⟨hlt, hcounts⟩ := countable_items hcount hparts hcountable
  obtain ⟨hdepth, hle, hitems⟩ := (withinAt_items hcount hnesting hparts).1 hwithin
  rw [hencode, encodeItems_eq] at hbound ⊢
  rw [readFrame_aggregate id rest (hread · depth) hlt ⟨hdepth, hle⟩ hbound, List.map_id]
  intro item hitem bound rest
  exact ih item hitem bound (depth + 1) rest (hcounts item hitem) (hitems item hitem)

theorem readsBack_map {entries : List (Reply × Reply)}
    (ih : ∀ entry ∈ entries, entry.1.ReadsBack limits ∧ entry.2.ReadsBack limits) :
    (map entries).ReadsBack limits := by
  intro bound depth rest hcountable hwithin hbound
  obtain ⟨hlt, hcounts⟩ := countable_map hcountable
  obtain ⟨hdepth, hle, hentries⟩ := withinAt_map.1 hwithin
  have hread (inner : Nat → Reader Reply) : readContents limits inner depth .map
      = ofMembers .map <$> readMembers limits (depth + 1) (readPair (inner (depth + 1))) := rfl
  rw [encode, encodeEntries_eq] at hbound ⊢
  rw [readFrame_aggregate id rest hread hlt ⟨hdepth, hle⟩ hbound, List.map_id]
  intro entry hentry bound rest hbound
  obtain ⟨hkey, hvalue⟩ := ih entry hentry
  rw [List.length_append] at hbound
  have hfirst := hkey bound (depth + 1) (encode entry.2 ++ rest) (hcounts entry hentry).1
    (hentries entry hentry).1 (by omega)
  have hsecond := hvalue bound (depth + 1) rest (hcounts entry hentry).2
    (hentries entry hentry).2 (by omega)
  rw [List.append_assoc, readPair, bind_of_ok hfirst, bind_of_ok hsecond]
  rfl

theorem readsBack (limits : Limits) (reply : Reply) : reply.ReadsBack limits := by
  induction reply using Reply.induction with
  | leaf reply hleaf =>
    intro bound depth rest hcountable hwithin hbound
    exact readFrame_leaf rest hleaf ((withinAt_of_leaf hleaf).1 hwithin)
      (hcountable reply reply.self_mem_parts).2 hbound
  | array items ih => exact readsBack_items rfl rfl rfl rfl (fun _ _ => rfl) ih
  | set items ih => exact readsBack_items rfl rfl rfl rfl (fun _ _ => rfl) ih
  | push items ih => exact readsBack_items rfl rfl rfl rfl (fun _ _ => rfl) ih
  | map entries ih => exact readsBack_map ih

/-- What is written for a reply is read as that reply, with all that follows left over, if and only
if the reply keeps to the limits. -/
theorem decode_encode_iff (limits : Limits) (reply : Reply) (rest : Bytes)
    (h : reply.Countable) :
    decode limits (encode reply ++ rest) = .ok (reply, rest) ↔ reply.Within limits :=
  ⟨within_of_decode, fun hwithin =>
    readsBack limits reply _ 0 rest h (withinAt_zero.2 hwithin) (by simp)⟩

/-- A map that holds an array and payloads with the marks that end lines, in front of more
octets. -/
theorem decode_encode_nested :
    let items := [double .nan, bulk [13, 10], verbatim ⟨116, 120, 116⟩ []]
    let reply := map [(simple [107], array items)]
    reply.Countable ∧
      decode ⟨2, 3, 4⟩ (encode reply ++ [42]) = .ok (reply, [42]) := by
  intro items reply
  have hcountable : reply.Countable := by decide
  have hwithin : reply.Within ⟨2, 3, 4⟩ := by decide
  exact ⟨hcountable, (decode_encode_iff ⟨2, 3, 4⟩ reply [42] hcountable).2 hwithin⟩

end Reply

end ClusterBatch
