import ClusterBatch.Proofs.Recognizers
import ClusterBatch.Reply.Parts

/-!
# What can be decoded

Every reply that is decoded keeps to the limits of the reader: its lines are unbroken, its
aggregates are neither too deep nor too long, and its payloads are not too long. The readers are
followed step by step, each keeping what its frame and all frames inside it keep.

Main statement: `Reply.within_of_decode`.
-/

namespace ClusterBatch

namespace Reply

open Reader

variable {α : Type} {limits : Limits} {depth : Nat}

/-! ## Aggregates and what is in them -/

theorem withinAt_zero {reply : Reply} : reply.WithinAt limits 0 ↔ reply.Within limits :=
  ⟨fun h => ⟨h.nesting_le, h.fits⟩, fun h => ⟨h.nesting_le, h.fits⟩⟩

/-- A reply that is no aggregate only has to keep to limits itself. -/
theorem withinAt_of_leaf {reply : Reply} (h : reply.count? = none) :
    reply.WithinAt limits depth ↔ reply.Fits limits := by
  constructor
  · exact fun h => h.fits reply reply.self_mem_parts
  · intro hfits
    constructor
    · cases reply <;> simp_all [nesting, count?]
    · cases reply <;> simp_all [parts, count?]

theorem fits_of_count {reply : Reply} {count : Nat} (h : reply.count? = some count) :
    reply.Fits limits ↔ count ≤ limits.elements := by
  constructor
  · exact fun hfits => hfits.count_le count h
  · intro hle
    constructor
    · cases reply <;> simp_all [line?, count?]
    · intro n hn
      obtain rfl := Option.some.inj (h.symm.trans hn)
      exact hle
    · cases reply <;> simp_all [payloadLength?, count?]

/-- An aggregate keeps to limits if it is neither too deep nor too long and its members keep to
them one deeper. -/
theorem withinAt_items {build : List Reply → Reply} {items : List Reply}
    (hcount : (build items).count? = some items.length)
    (hnesting : (build items).nesting = nestingOfItems items + 1)
    (hparts : (build items).parts = build items :: partsOfItems items) :
    (build items).WithinAt limits depth ↔
      depth < limits.depth ∧ items.length ≤ limits.elements ∧
        ∀ item ∈ items, item.WithinAt limits (depth + 1) := by
  have hle : nestingOfItems items + 1 ≤ limits.depth - depth ↔
      depth < limits.depth ∧ nestingOfItems items ≤ limits.depth - (depth + 1) := by omega
  rw [nestingOfItems_le] at hle
  constructor
  · rintro ⟨hn, hfits⟩
    rw [hnesting, hle] at hn
    rw [hparts, partsOfItems_eq] at hfits
    refine ⟨hn.1, ?_, fun item hitem => ⟨hn.2 item hitem, fun part hpart => ?_⟩⟩
    · exact (fits_of_count hcount).1 (hfits _ List.mem_cons_self)
    · exact hfits part (List.mem_cons_of_mem _ (List.mem_flatMap.2 ⟨item, hitem, hpart⟩))
  · rintro ⟨hdepth, hlen, hitems⟩
    constructor
    · rw [hnesting, hle]
      exact ⟨hdepth, fun item hitem => (hitems item hitem).nesting_le⟩
    · rw [hparts, partsOfItems_eq]
      intro part hpart
      rcases List.mem_cons.1 hpart with rfl | hpart
      · exact (fits_of_count hcount).2 hlen
      · obtain ⟨item, hitem, hpart⟩ := List.mem_flatMap.1 hpart
        exact (hitems item hitem).fits part hpart

theorem withinAt_map {entries : List (Reply × Reply)} :
    (map entries).WithinAt limits depth ↔
      depth < limits.depth ∧ entries.length ≤ limits.elements ∧
        ∀ entry ∈ entries,
          entry.1.WithinAt limits (depth + 1) ∧ entry.2.WithinAt limits (depth + 1) := by
  have hle : nestingOfEntries entries + 1 ≤ limits.depth - depth ↔
      depth < limits.depth ∧ nestingOfEntries entries ≤ limits.depth - (depth + 1) := by omega
  rw [nestingOfEntries_le] at hle
  constructor
  · rintro ⟨hn, hfits⟩
    rw [nesting, hle] at hn
    rw [parts, partsOfEntries_eq] at hfits
    have hpart {entry part} (hentry : entry ∈ entries)
        (hpart : part ∈ entry.1.parts ++ entry.2.parts) : part.Fits limits :=
      hfits part (List.mem_cons_of_mem _ (List.mem_flatMap.2 ⟨entry, hentry, hpart⟩))
    refine ⟨hn.1, (fits_of_count rfl).1 (hfits _ List.mem_cons_self), fun entry hentry => ?_⟩
    exact ⟨⟨(hn.2 entry hentry).1, fun part h => hpart hentry (List.mem_append_left _ h)⟩,
      ⟨(hn.2 entry hentry).2, fun part h => hpart hentry (List.mem_append_right _ h)⟩⟩
  · rintro ⟨hdepth, hlen, hentries⟩
    constructor
    · rw [nesting, hle]
      exact ⟨hdepth, fun entry hentry =>
        ⟨(hentries entry hentry).1.nesting_le, (hentries entry hentry).2.nesting_le⟩⟩
    · rw [parts, partsOfEntries_eq]
      intro part hpart
      rcases List.mem_cons.1 hpart with rfl | hpart
      · exact (fits_of_count rfl).2 hlen
      · obtain ⟨entry, hentry, hpart⟩ := List.mem_flatMap.1 hpart
        exact (List.mem_append.1 hpart).elim ((hentries entry hentry).1.fits part)
          ((hentries entry hentry).2.fits part)

/-! ## What readers return -/

theorem readLine_yields : Yields readLine fun line => Bytes.cr ∉ line :=
  ⟨fun h => (readLine_eq_ok_iff.1 h).2⟩

theorem readOctets_yields (count : Nat) :
    Yields (readOctets count) fun payload => payload.length = count :=
  ⟨fun h => (readOctets_eq_ok_iff.1 h).2⟩

theorem readPayload_yields :
    Yields (readPayload limits) fun payload => ∀ p ∈ payload, p.length ≤ limits.payload := by
  refine Yields.trivial.bind fun length _ => ?_
  cases length with
  | none => exact .pure (by simp)
  | some length =>
    by_cases h : limits.payload < length
    · simpa [h] using Yields.throw _
    · simp only [h, if_false]
      exact (readOctets_yields length).map fun payload hlen => by simp; omega

theorem readPresentPayload_yields :
    Yields (readPresentPayload limits) fun payload => payload.length ≤ limits.payload := by
  refine readPayload_yields.bind fun payload hpayload => ?_
  cases payload with
  | some payload => exact .pure (hpayload payload rfl)
  | none => exact .throw _

theorem readMany_yields {read : Reader α} {p : α → Prop} (h : Yields read p) (count : Nat) :
    Yields (readMany read count) fun members => members.length = count ∧ ∀ a ∈ members, p a := by
  induction count with
  | zero => exact .pure (by simp)
  | succ count ih =>
    refine h.bind fun first hfirst => ih.bind fun others hothers => .pure ?_
    simp [hfirst, hothers.1]
    exact hothers.2

theorem readPair_yields {read : Reader α} {p : α → Prop} (h : Yields read p) :
    Yields (readPair read) fun pair => p pair.1 ∧ p pair.2 :=
  h.bind fun _ hkey => h.bind fun _ hvalue => .pure ⟨hkey, hvalue⟩

theorem readMembers_yields (limits : Limits) {read : Reader α} {p : α → Prop} (h : Yields read p)
    (depth : Nat) :
    Yields (readMembers limits (depth + 1) read) fun members? => ∀ members ∈ members?,
      depth < limits.depth ∧ members.length ≤ limits.elements ∧ ∀ a ∈ members, p a := by
  constructor
  intro data members? rest hread members hmembers
  obtain ⟨rfl, -⟩ | ⟨_, count, middle, rfl, hcount, hdepth, hmany⟩ :=
    readMembers_eq_ok_iff.1 hread
  · cases hmembers
  · cases hmembers
    obtain ⟨hlength, hall⟩ := (readMany_yields h count).holds hmany
    exact ⟨hdepth, hlength ▸ (readCount_eq_ok_iff.1 hcount).1 count rfl, hall⟩

theorem withinAt_line {reply : Reply} {text : Bytes} (hcount : reply.count? = none)
    (hline : reply.line? = some text) (hpayload : reply.payloadLength? = none)
    (htext : Bytes.cr ∉ text) : reply.WithinAt limits depth := by
  refine (withinAt_of_leaf hcount).2 ⟨?_, ?_, ?_⟩
  · simpa [hline] using htext
  · simp [hcount]
  · simp [hpayload]

theorem withinAt_payload {reply : Reply} {length : Nat} (hcount : reply.count? = none)
    (hline : reply.line? = none) (hpayload : reply.payloadLength? = some length)
    (hle : length ≤ limits.payload) : reply.WithinAt limits depth := by
  refine (withinAt_of_leaf hcount).2 ⟨?_, ?_, ?_⟩
  · simp [hline]
  · simp [hcount]
  · simpa [hpayload] using hle

theorem withinAt_plain {reply : Reply} (hcount : reply.count? = none) (hline : reply.line? = none)
    (hpayload : reply.payloadLength? = none) : reply.WithinAt limits depth := by
  refine (withinAt_of_leaf hcount).2 ⟨?_, ?_, ?_⟩
  · simp [hline]
  · simp [hcount]
  · simp [hpayload]

theorem withinAt_verbatim {payload : Bytes} {reply : Reply} (h : payload.length ≤ limits.payload)
    (hv : verbatimOfPayload? payload = some reply) : reply.WithinAt limits depth := by
  unfold verbatimOfPayload? at hv
  split at hv
  · split at hv
    · obtain rfl := Option.some.inj hv
      exact withinAt_payload rfl rfl rfl h
    · cases hv
  · cases hv

theorem readItems_yields {inner : Nat → Reader Reply} {depth : Nat} {build : List Reply → Reply}
    (h : Yields (inner (depth + 1)) (WithinAt limits (depth + 1)))
    (hbuild : ∀ items, (build items).WithinAt limits depth ↔
      depth < limits.depth ∧ items.length ≤ limits.elements ∧
        ∀ item ∈ items, item.WithinAt limits (depth + 1)) :
    Yields (ofMembers build <$> readMembers limits (depth + 1) (inner (depth + 1)))
      (WithinAt limits depth) := by
  refine (readMembers_yields limits h depth).map fun members hmembers => ?_
  cases members with
  | some members => exact (hbuild members).2 (hmembers members rfl)
  | none => exact withinAt_plain rfl rfl rfl

theorem readContents_yields {inner : Nat → Reader Reply}
    (h : ∀ depth, Yields (inner depth) (WithinAt limits depth)) (depth : Nat) (marker : Marker) :
    Yields (readContents limits inner depth marker) (WithinAt limits depth) := by
  have null : Reply.null.WithinAt limits depth := withinAt_plain rfl rfl rfl
  have pairs := readMembers_yields limits (readPair_yields (h (depth + 1))) depth
  cases marker with
  | simple => exact readLine_yields.map fun _ htext => withinAt_line rfl rfl rfl htext
  | error => exact readLine_yields.map fun _ htext => withinAt_line rfl rfl rfl htext
  | bigNumber => exact readLine_yields.map fun _ htext => withinAt_line rfl rfl rfl htext
  | integer => exact Yields.trivial.map fun _ _ => withinAt_plain rfl rfl rfl
  | array => exact readItems_yields (h _) fun _ => withinAt_items rfl rfl rfl
  | set => exact readItems_yields (h _) fun _ => withinAt_items rfl rfl rfl
  | push => exact readItems_yields (h _) fun _ => withinAt_items rfl rfl rfl
  | map =>
    refine pairs.map fun entries hentries => ?_
    cases entries with
    | some entries => exact withinAt_map.2 (hentries entries rfl)
    | none => exact null
  | bulk =>
    refine readPayload_yields.bind fun payload hpayload => ?_
    cases payload with
    | some payload =>
      exact .pure (withinAt_payload rfl rfl rfl (hpayload payload rfl))
    | none => exact .pure null
  | bulkError =>
    exact readPresentPayload_yields.map fun _ hpayload => withinAt_payload rfl rfl rfl hpayload
  | verbatim =>
    refine readPresentPayload_yields.bind fun payload hpayload => ?_
    cases hv : verbatimOfPayload? payload with
    | some reply => exact .pure (withinAt_verbatim hpayload hv)
    | none => exact .throw _
  | null =>
    refine Yields.trivial.bind fun text _ => ?_
    by_cases htext : text = []
    · simpa [htext] using Yields.pure null
    · simpa [htext] using Yields.throw _
  | boolean =>
    refine Yields.trivial.bind fun text _ => ?_
    cases booleanOfLine? text with
    | some value => exact .pure (withinAt_plain rfl rfl rfl)
    | none => exact .throw _
  | double =>
    refine Yields.trivial.bind fun text _ => ?_
    cases Double.ofText? text.chars with
    | some value => exact .pure (withinAt_plain rfl rfl rfl)
    | none => exact .throw _
  | attributes =>
    refine pairs.bind fun entries _ => ?_
    cases entries with
    | some entries => exact h depth
    | none => exact .pure null

theorem readFrame_yields (limits : Limits) (bound depth : Nat) :
    Yields (readFrame limits bound depth) (WithinAt limits depth) := by
  induction bound generalizing depth with
  | zero => exact .throw _
  | succ bound ih =>
    refine Yields.trivial.bind fun octet _ => ?_
    cases Marker.ofByte? octet with
    | some marker => exact readContents_yields ih depth marker
    | none => exact .throw _

/-- Whatever is decoded keeps to the limits. -/
theorem within_of_decode {data rest : Bytes} {reply : Reply}
    (h : decode limits data = .ok (reply, rest)) : reply.Within limits :=
  withinAt_zero.1 ((readFrame_yields limits data.length 0).holds h)

end Reply

end ClusterBatch
