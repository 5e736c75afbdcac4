import ClusterBatch.Proofs.Framing
import Mathlib.Data.List.Forall2

/-!
# Readers of a language

A reader recognizes a language if it takes exactly the octets that spell a value off the front of
those at hand, no fewer and no more. Readers that go on with one another recognize what their
languages spell one after the other, and so a row of members is spelled member by member behind a
line that counts them.

Main statements: `Reader.Recognizes.bind` and `Reader.Recognizes.readMany`,
`Reply.readMembers_eq_none_iff` and `Reply.readMembers_eq_some_iff`.
-/

namespace ClusterBatch

namespace Reader

variable {α β : Type}

/-- Whether `read` takes exactly the octets that spell a value off the front of no more than `bound`
octets. -/
def Recognizes (bound : Nat) (read : Reader α) (spells : Bytes → α → Prop) : Prop :=
  ∀ ⦃data⦄, data.length ≤ bound → ∀ a rest,
    read data = .ok (a, rest) ↔ ∃ used, spells used a ∧ data = used ++ rest

namespace Recognizes

variable {bound : Nat} {read : Reader α} {spells : Bytes → α → Prop}

theorem pure (a : α) : Recognizes bound (pure a) fun used b => used = [] ∧ a = b := by
  intro data _ b rest
  rw [pure_eq_ok]
  constructor
  · rintro ⟨rfl, rfl⟩
    exact ⟨[], ⟨rfl, rfl⟩, rfl⟩
  · rintro ⟨used, ⟨rfl, rfl⟩, rfl⟩
    exact ⟨rfl, rfl⟩

/-- What is read in two steps is spelled by what the one takes followed by what the other takes. -/
theorem bind {next : α → Reader β} {follows : α → Bytes → β → Prop}
    (h : Recognizes bound read spells) (hnext : ∀ a, Recognizes bound (next a) (follows a)) :
    Recognizes bound (read >>= next) fun used b =>
      ∃ a first second, spells first a ∧ follows a second b ∧ used = first ++ second := by
  intro data hdata b rest
  constructor
  · intro hread
    obtain ⟨a, middle, ha, hb⟩ := bind_eq_ok.1 hread
    obtain ⟨first, hfirst, rfl⟩ := (h hdata a middle).1 ha
    -- What is left for the second step keeps within the bound.
    rw [List.length_append] at hdata
    obtain ⟨second, hsecond, rfl⟩ := (hnext a (by omega) b rest).1 hb
    exact ⟨first ++ second, ⟨a, first, second, hfirst, hsecond, rfl⟩,
      (List.append_assoc ..).symm⟩
  · rintro ⟨used, ⟨a, first, second, hfirst, hsecond, rfl⟩, rfl⟩
    rw [List.append_assoc] at hdata ⊢
    refine bind_eq_ok.2 ⟨a, second ++ rest, (h hdata _ _).2 ⟨first, hfirst, rfl⟩, ?_⟩
    rw [List.length_append] at hdata
    exact (hnext a (by omega) _ _).2 ⟨second, hsecond, rfl⟩

theorem congr {spells' : Bytes → α → Prop} (h : Recognizes bound read spells)
    (hspells : ∀ used a, spells used a ↔ spells' used a) : Recognizes bound read spells' := by
  intro data hdata a rest
  simp only [h hdata, hspells]

/-- A value that is made of what was read is spelled like it. -/
theorem bind_pure (f : α → β) (h : Recognizes bound read spells) :
    Recognizes bound (read >>= fun a => Pure.pure (f a)) fun used b =>
      ∃ a, spells used a ∧ f a = b := by
  refine (h.bind fun a => pure (f a)).congr fun used b => ?_
  constructor
  · rintro ⟨a, first, _, hfirst, ⟨rfl, rfl⟩, rfl⟩
    exact ⟨a, by rwa [List.append_nil], rfl⟩
  · rintro ⟨a, hused, rfl⟩
    exact ⟨a, used, [], hused, ⟨rfl, rfl⟩, (List.append_nil used).symm⟩

theorem readPair (h : Recognizes bound read spells) :
    Recognizes bound (Reply.readPair read) fun used pair =>
      ∃ key value, spells key pair.1 ∧ spells value pair.2 ∧ used = key ++ value := by
  refine (h.bind fun key => h.bind_pure fun value => (key, value)).congr fun used pair => ?_
  constructor
  · rintro ⟨_, key, value, hkey, ⟨_, hvalue, rfl⟩, rfl⟩
    exact ⟨key, value, hkey, hvalue, rfl⟩
  · rintro ⟨key, value, hkey, hvalue, rfl⟩
    exact ⟨pair.1, key, value, hkey, ⟨pair.2, hvalue, rfl⟩, rfl⟩

/-- Several values are spelled one after the other. -/
theorem readMany (h : Recognizes bound read spells) (count : Nat) :
    Recognizes bound (Reply.readMany read count) fun used members =>
      members.length = count ∧
        ∃ pieces, List.Forall₂ spells pieces members ∧ used = pieces.flatten := by
  induction count with
  | zero =>
    refine (pure []).congr fun used members => ?_
    constructor
    · rintro ⟨rfl, rfl⟩
      exact ⟨rfl, [], .nil, rfl⟩
    · rintro ⟨hlength, pieces, hpieces, rfl⟩
      obtain rfl := List.eq_nil_of_length_eq_zero hlength
      obtain rfl := List.forall₂_nil_right_iff.1 hpieces
      exact ⟨rfl, rfl⟩
  | succ count ih =>
    refine (h.bind fun first => ih.bind_pure fun others => first :: others).congr
      fun used members => ?_
    constructor
    · rintro ⟨first, piece, _, hpiece, ⟨others, ⟨rfl, pieces, hpieces, rfl⟩, rfl⟩, rfl⟩
      exact ⟨rfl, piece :: pieces, .cons hpiece hpieces, List.flatten_cons.symm⟩
    · rintro ⟨hlength, pieces, hpieces, rfl⟩
      obtain ⟨first, others, rfl⟩ := List.exists_cons_of_length_eq_add_one hlength
      obtain ⟨piece, pieces, hpiece, hothers, rfl⟩ := List.forall₂_cons_right_iff.1 hpieces
      exact ⟨first, piece, pieces.flatten, hpiece,
        ⟨others, ⟨Nat.succ.inj hlength, pieces, hothers, rfl⟩, rfl⟩, List.flatten_cons⟩

end Recognizes

end Reader

namespace Reply

open Reader

variable {α : Type} {limits : Limits} {bound depth : Nat}

/-! ## Counts -/

/-- Octets are a line that is a numeral of `n`, a signed word. -/
def IsNumeralLine (line : Bytes) (n : Int) : Prop :=
  ∃ text word, line = text ++ Bytes.crlf ∧ Bytes.cr ∉ text ∧
    Numeral.int64? text.chars = some word ∧ word.toInt = n

/-- Octets begin with a line that says minus one where a count is due, and `rest` follows. -/
def AnnouncesNone (data rest : Bytes) : Prop :=
  ∃ line, IsNumeralLine line (-1) ∧ data = line ++ rest

theorem readInteger_eq_ok_iff {data rest : Bytes} {word : Int64} :
    readInteger data = .ok (word, rest) ↔ ∃ text, data = text ++ Bytes.crlf ++ rest ∧
      Bytes.cr ∉ text ∧ Numeral.int64? text.chars = some word := by
  rw [readInteger, bind_eq_ok]
  constructor
  · rintro ⟨text, middle, hline, hword⟩
    obtain ⟨rfl, htext⟩ := readLine_eq_ok_iff.1 hline
    cases hnumeral : Numeral.int64? text.chars with
    | none =>
      rw [hnumeral] at hword
      exact nomatch hword
    | some value =>
      rw [hnumeral] at hword
      obtain ⟨rfl, rfl⟩ := pure_eq_ok.1 hword
      exact ⟨text, rfl, htext, hnumeral⟩
  · rintro ⟨text, rfl, htext, hnumeral⟩
    refine ⟨text, rest, readLine_eq_ok_iff.2 ⟨rfl, htext⟩, ?_⟩
    simp only [hnumeral, pure_eq_ok, and_self]

/-- The number that is written for a count, or in place of one that is absent. -/
def countNumber : Option Nat → Int
  | none => -1
  | some count => count

/-- The last step of reading a count, in which minus one and other negative numbers are told
apart. -/
theorem countOfWord_eq_ok_iff (word : Int64) {data rest : Bytes} {count? : Option Nat} :
    (if word.toInt = -1 then pure none
      else if word.toInt < 0 then throw .invalidLength
      else pure (some word.toInt.toNat) : Reader (Option Nat)) data = .ok (count?, rest) ↔
    word.toInt = countNumber count? ∧ data = rest := by
  by_cases hone : word.toInt = -1
  · rw [if_pos hone, hone, pure_eq_ok]
    refine and_congr_left' ?_
    cases count? with
    | none => exact ⟨fun _ => rfl, fun _ => rfl⟩
    | some count => exact ⟨nofun, fun h => by rw [countNumber] at h; omega⟩
  by_cases hneg : word.toInt < 0
  · rw [if_neg hone, if_pos hneg]
    refine ⟨nofun, fun ⟨h, _⟩ => ?_⟩
    cases count? with
    | none => exact absurd h hone
    | some count => rw [countNumber] at h; omega
  · rw [if_neg hone, if_neg hneg, pure_eq_ok]
    refine and_congr_left' ?_
    cases count? with
    | none => exact ⟨nofun, fun h => absurd h hone⟩
    | some count => rw [Option.some.injEq, countNumber]; omega

theorem readLength_eq_ok_iff {data rest : Bytes} {count? : Option Nat} :
    readLength data = .ok (count?, rest) ↔
      ∃ line, IsNumeralLine line (countNumber count?) ∧ data = line ++ rest := by
  rw [readLength, bind_eq_ok]
  simp only [countOfWord_eq_ok_iff, readInteger_eq_ok_iff]
  constructor
  · rintro ⟨word, _, ⟨text, rfl, htext, hnumeral⟩, hword, rfl⟩
    exact ⟨text ++ Bytes.crlf, ⟨text, word, rfl, htext, hnumeral, hword⟩, rfl⟩
  · rintro ⟨_, ⟨text, word, rfl, htext, hnumeral, hword⟩, rfl⟩
    exact ⟨word, rest, ⟨text, rfl, htext, hnumeral⟩, hword, rfl⟩

theorem AnnouncesNone.unique {data rest more : Bytes} (h : AnnouncesNone data more)
    (hrest : AnnouncesNone data rest) : rest = more := by
  have hread {rest : Bytes} (h : AnnouncesNone data rest) : readLength data = .ok (none, rest) :=
    readLength_eq_ok_iff.2 h
  cases (hread h).symm.trans (hread hrest)
  rfl

theorem readCount_eq_ok_iff {data rest : Bytes} {count? : Option Nat} :
    readCount limits data = .ok (count?, rest) ↔ (∀ count ∈ count?, count ≤ limits.elements) ∧
      ∃ line, IsNumeralLine line (countNumber count?) ∧ data = line ++ rest := by
  rw [readCount, bind_eq_ok, ← readLength_eq_ok_iff]
  constructor
  · rintro ⟨_ | count, middle, hlength, hcount⟩
    · obtain ⟨rfl, rfl⟩ := pure_eq_ok.1 hcount
      exact ⟨nofun, hlength⟩
    · by_cases hmany : limits.elements < count
      · simp only [hmany, if_true] at hcount
        exact nomatch hcount
      · simp only [hmany, if_false, pure_eq_ok] at hcount
        obtain ⟨rfl, rfl⟩ := hcount
        exact ⟨fun _ h => Option.some.inj h ▸ Nat.not_lt.1 hmany, hlength⟩
  · rintro ⟨hle, hlength⟩
    refine ⟨count?, rest, hlength, ?_⟩
    cases count? with
    | none => rfl
    | some count => simp only [Nat.not_lt.2 (hle count rfl), if_false, pure_eq_ok, and_self]

/-! ## Members -/

theorem readMembers_eq_ok_iff {read : Reader α} {data rest : Bytes} {members? : Option (List α)} :
    readMembers limits depth read data = .ok (members?, rest) ↔
      (members? = none ∧ readCount limits data = .ok (none, rest)) ∨
        ∃ members count middle, members? = some members ∧
          readCount limits data = .ok (some count, middle) ∧ depth ≤ limits.depth ∧
            readMany read count middle = .ok (members, rest) := by
  rw [readMembers, bind_eq_ok]
  constructor
  · rintro ⟨_ | count, middle, hcount, hmembers⟩
    · obtain ⟨rfl, rfl⟩ := pure_eq_ok.1 hmembers
      exact .inl ⟨rfl, hcount⟩
    · by_cases hdepth : limits.depth < depth
      · simp only [hdepth, if_true] at hmembers
        exact nomatch hmembers
      · simp only [hdepth, if_false, map_eq_pure_bind, bind_eq_ok, pure_eq_ok] at hmembers
        obtain ⟨members, _, hmany, rfl, rfl⟩ := hmembers
        exact .inr ⟨members, count, middle, rfl, hcount, Nat.not_lt.1 hdepth, hmany⟩
  · rintro (⟨rfl, hcount⟩ | ⟨members, count, middle, rfl, hcount, hdepth, hmany⟩)
    · exact ⟨none, rest, hcount, rfl⟩
    · refine ⟨some count, middle, hcount, ?_⟩
      simp only [Nat.not_lt.2 hdepth, if_false]
      exact map_of_ok hmany

/-- Members are absent exactly if minus one is announced, whatever the limits are. -/
theorem readMembers_eq_none_iff {read : Reader α} {data rest : Bytes} :
    readMembers limits depth read data = .ok (none, rest) ↔ AnnouncesNone data rest := by
  rw [readMembers_eq_ok_iff]
  constructor
  · rintro (⟨-, hcount⟩ | ⟨_, _, _, h, -⟩)
    · exact (readCount_eq_ok_iff.1 hcount).2
    · cases h
  · exact fun h => .inl ⟨rfl, readCount_eq_ok_iff.2 ⟨nofun, h⟩⟩

/-- Members are present exactly if as many of them as announced follow, which the limits allow. -/
theorem readMembers_eq_some_iff {read : Reader α} {spells : Bytes → α → Prop}
    {data rest : Bytes} {members : List α} (h : Recognizes bound read spells)
    (hdata : data.length ≤ bound) :
    readMembers limits depth read data = .ok (some members, rest) ↔
      depth ≤ limits.depth ∧ members.length ≤ limits.elements ∧
        ∃ line pieces, IsNumeralLine line members.length ∧ List.Forall₂ spells pieces members ∧
          data = line ++ pieces.flatten ++ rest := by
  rw [readMembers_eq_ok_iff]
  constructor
  · rintro (⟨hmembers, -⟩ | ⟨_, count, middle, ⟨⟩, hcount, hdepth, hmany⟩)
    · cases hmembers
    obtain ⟨hle, line, hline, rfl⟩ := readCount_eq_ok_iff.1 hcount
    rw [List.length_append] at hdata
    obtain ⟨_, ⟨rfl, pieces, hpieces, rfl⟩, rfl⟩ := (h.readMany count (by omega) _ _).1 hmany
    exact ⟨hdepth, hle _ rfl, line, pieces, hline, hpieces, (List.append_assoc ..).symm⟩
  · rintro ⟨hdepth, hle, line, pieces, hline, hpieces, rfl⟩
    refine .inr ⟨members, members.length, pieces.flatten ++ rest, rfl, ?_, hdepth, ?_⟩
    · refine readCount_eq_ok_iff.2 ⟨?_, line, hline, List.append_assoc ..⟩
      rintro _ ⟨⟩
      exact hle
    · rw [List.append_assoc, List.length_append] at hdata
      exact (h.readMany members.length (by omega) _ _).2
        ⟨pieces.flatten, ⟨rfl, pieces, hpieces, rfl⟩, rfl⟩

end Reply

end ClusterBatch
