import ClusterBatch.NodeAddress
import ClusterBatch.Text.Utf8
import Mathlib.Data.List.Basic

/-!
# Texts of addresses

A host may contain colons, but a port does not. The last colon of the text of an address is
therefore the one in front of its port, and no two addresses have the same text. Brackets around a
host are no part of it, however many there are, and what is left begins and ends with none: an
address that is read from a text is read from its own text as well.

Main statements: `NodeAddress.ofText_eq_ok_iff` and `NodeAddress.ofText_text_iff`.
-/

namespace ClusterBatch

theorem Numeral.ofNat_injective : Function.Injective Numeral.ofNat := by
  intro m n h
  have hread := congrArg Numeral.natural? h
  simpa using hread

namespace Numeral

/-- Whether a text is one or more digits, which a plus sign may precede, of the given value. -/
def Counts (text : List Char) (n : Nat) : Prop :=
  ∃ digits, (text = digits ∨ text = '+' :: digits) ∧ digits ≠ [] ∧ (∀ c ∈ digits, c.isDigit) ∧
    Nat.ofDigitChars 10 digits 0 = n

variable {text digits : List Char} {bound n : Nat}

theorem natural?_eq_some_iff : natural? digits = some n ↔
    digits ≠ [] ∧ (∀ c ∈ digits, c.isDigit) ∧ Nat.ofDigitChars 10 digits 0 = n := by
  rw [natural?, Option.ite_none_right_eq_some, List.all_eq_true, Option.some.injEq, and_assoc]

theorem counts_plus_iff : Counts ('+' :: digits) n ↔ natural? digits = some n := by
  rw [natural?_eq_some_iff]
  constructor
  · rintro ⟨found, rfl | hsign, hread⟩
    · exact absurd (hread.2.1 '+' List.mem_cons_self) (by decide)
    · obtain rfl := List.tail_eq_of_cons_eq hsign
      exact hread
  · exact fun hread => ⟨digits, .inr rfl, hread⟩

theorem counts_iff_of_ne_plus (h : ∀ rest, text ≠ '+' :: rest) :
    Counts text n ↔ natural? text = some n := by
  rw [natural?_eq_some_iff]
  constructor
  · rintro ⟨found, rfl | hsign, hread⟩
    · exact hread
    · exact absurd hsign (h found)
  · exact fun hread => ⟨text, .inl rfl, hread⟩

theorem below?_eq_some_iff : below? bound text = some n ↔ Counts text n ∧ n < bound := by
  unfold below?
  split
  · rw [Option.filter_eq_some_iff, counts_plus_iff, decide_eq_true_iff]
  · next h => rw [Option.filter_eq_some_iff, counts_iff_of_ne_plus h, decide_eq_true_iff]

theorem below?_eq_none_iff : below? bound text = none ↔ ∀ n, Counts text n → bound ≤ n := by
  simp only [Option.eq_none_iff_forall_ne_some, ne_eq, below?_eq_some_iff, not_and, Nat.not_lt]

theorem counts_ofNat (n : Nat) : Counts (ofNat n) n :=
  ⟨ofNat n, .inl rfl, natural?_eq_some_iff.1 (natural?_ofNat n)⟩

theorem below?_ofNat (h : n < bound) : below? bound (ofNat n) = some n :=
  below?_eq_some_iff.2 ⟨counts_ofNat n, h⟩

end Numeral

namespace NodeAddress

theorem splitAtLastColon?_append {host port : List Char} (h : ':' ∉ port) :
    splitAtLastColon? (host ++ ':' :: port) = some (host, port) := by
  have hport : ∀ c ∈ port.reverse, decide (c ≠ ':') = true := by
    intro c hc
    simpa using fun heq : c = ':' => h (heq ▸ List.mem_reverse.1 hc)
  have hreverse : (host ++ ':' :: port).reverse = port.reverse ++ ':' :: host.reverse := by simp
  unfold splitAtLastColon?
  simp only [hreverse, List.dropWhile_append_of_pos hport, List.takeWhile_append_of_pos hport]
  simp

theorem splitAtLastColon?_eq_some_iff {text host port : List Char} :
    splitAtLastColon? text = some (host, port) ↔ text = host ++ ':' :: port ∧ ':' ∉ port := by
  constructor
  · intro h
    unfold splitAtLastColon? at h
    dsimp only at h
    split at h
    · cases h
    · next c before hdrop =>
      have hstop := List.head?_dropWhile_not (· ≠ ':') text.reverse
      rw [hdrop] at hstop
      obtain rfl : c = ':' := by simpa using hstop
      have hreverse := List.takeWhile_append_dropWhile (p := (· ≠ ':')) (l := text.reverse)
      have hport : ∀ d ∈ text.reverse.takeWhile (· ≠ ':'), d ≠ ':' := by
        intro d hd
        simpa using List.all_eq_true.1 List.all_takeWhile d hd
      cases h
      rw [hdrop] at hreverse
      constructor
      · simpa using (congrArg List.reverse hreverse).symm
      · exact fun hmem => hport ':' (List.mem_reverse.1 hmem) rfl
  · rintro ⟨rfl, hport⟩
    exact splitAtLastColon?_append hport

theorem colon_notMem_of_counts {port : List Char} {n : Nat} (h : Numeral.Counts port n) :
    ':' ∉ port := by
  obtain ⟨digits, hport, -, hdigits, -⟩ := h
  have hcolon : ':' ∉ digits := fun hmem => absurd (hdigits ':' hmem) (by decide)
  rcases hport with rfl | rfl
  · exact hcolon
  · simpa using hcolon

theorem toList_text (address : NodeAddress) :
    address.text.toList = address.host.toList ++ ':' :: Numeral.ofNat address.port.toNat := by
  simp [text, Numeral.ofNat]

theorem splitAtLastColon?_text (address : NodeAddress) :
    splitAtLastColon? address.text.toList =
      some (address.host.toList, Numeral.ofNat address.port.toNat) := by
  rw [toList_text, splitAtLastColon?_append (colon_notMem_of_counts (Numeral.counts_ofNat _))]

/-- No two addresses have the same text, whatever is in their hosts. -/
theorem text_injective : Function.Injective text := by
  intro one other h
  have hsplit := congrArg (fun text : String => splitAtLastColon? text.toList) h
  simp only [splitAtLastColon?_text, Option.some.injEq, Prod.mk.injEq] at hsplit
  obtain ⟨hhost, hport⟩ := hsplit
  obtain ⟨host, port⟩ := one
  obtain ⟨host', port'⟩ := other
  obtain rfl : host = host' := String.toList_injective hhost
  obtain rfl : port = port' := UInt16.toNat_inj.1 (Numeral.ofNat_injective hport)
  rfl

/-! ## Brackets -/

/-- Whether a host is not empty and neither begins nor ends with a bracket that may enclose it. -/
def IsBare (host : List Char) : Prop :=
  host ≠ [] ∧ host.head? ≠ some '[' ∧ host.getLast? ≠ some ']'

theorem dropWhile_replicate_append {c : Char} {text : List Char} (n : Nat)
    (h : text.head? ≠ some c) : (List.replicate n c ++ text).dropWhile (· = c) = text := by
  have hall : ∀ d ∈ List.replicate n c, decide (d = c) = true := by
    intro d hd
    simpa using List.eq_of_mem_replicate hd
  rw [List.dropWhile_append_of_pos hall]
  cases text with
  | nil => rfl
  | cons d rest => exact List.dropWhile_cons_of_neg (by simpa using h)

theorem withoutBrackets_enclosed {host : List Char} (h : IsBare host) (m n : Nat) :
    withoutBrackets (List.replicate m '[' ++ (host ++ List.replicate n ']')) = host := by
  obtain ⟨hne, hfirst, hlast⟩ := h
  have hfront : (host ++ List.replicate n ']').head? ≠ some '[' := by
    obtain ⟨first, rest, rfl⟩ := List.exists_cons_of_ne_nil hne
    exact hfirst
  have hback : host.reverse.head? ≠ some ']' := by rwa [List.head?_reverse]
  rw [withoutBrackets, dropWhile_replicate_append m hfront, List.reverse_append,
    List.reverse_replicate, dropWhile_replicate_append n hback, List.reverse_reverse]

theorem exists_replicate_append_dropWhile (c : Char) (text : List Char) :
    ∃ n, text = List.replicate n c ++ text.dropWhile (· = c) := by
  have hall : ∀ d ∈ text.takeWhile (· = c), d = c := by
    intro d hd
    simpa using List.all_eq_true.1 List.all_takeWhile d hd
  refine ⟨(text.takeWhile (· = c)).length, ?_⟩
  rw [← List.eq_replicate_of_mem hall, List.takeWhile_append_dropWhile]

theorem head?_dropWhile_ne (c : Char) (text : List Char) :
    (text.dropWhile (· = c)).head? ≠ some c := by
  intro h
  have hstop := List.head?_dropWhile_not (· = c) text
  rw [h] at hstop
  simp at hstop

theorem exists_append_replicate (host : List Char) :
    ∃ n, host.dropWhile (· = '[') = withoutBrackets host ++ List.replicate n ']' := by
  obtain ⟨n, h⟩ := exists_replicate_append_dropWhile ']' (host.dropWhile (· = '[')).reverse
  exact ⟨n, by simpa [withoutBrackets] using congrArg List.reverse h⟩

/-- The brackets behind a host can be taken up to its first character only, and that is none of
those in front of it. -/
theorem isBare_withoutBrackets {host : List Char} (h : withoutBrackets host ≠ []) :
    IsBare (withoutBrackets host) := by
  refine ⟨h, ?_, ?_⟩
  · obtain ⟨n, hrest⟩ := exists_append_replicate host
    have hfirst := head?_dropWhile_ne '[' host
    rwa [hrest, List.head?_append_of_ne_nil _ h] at hfirst
  · rw [withoutBrackets, List.getLast?_reverse]
    exact head?_dropWhile_ne ']' _

theorem withoutBrackets_eq_iff {host bare : List Char} (hne : bare ≠ []) :
    withoutBrackets host = bare ↔ IsBare bare ∧
      ∃ m n, host = List.replicate m '[' ++ (bare ++ List.replicate n ']') := by
  constructor
  · rintro rfl
    obtain ⟨m, hfront⟩ := exists_replicate_append_dropWhile '[' host
    obtain ⟨n, hback⟩ := exists_append_replicate host
    exact ⟨isBare_withoutBrackets hne, m, n, hback ▸ hfront⟩
  · rintro ⟨hbare, m, n, rfl⟩
    exact withoutBrackets_enclosed hbare m n

def enclosed (address : NodeAddress) (m n : Nat) : String :=
  String.ofList (List.replicate m '[' ++ (address.host.toList ++ List.replicate n ']') ++
    ':' :: Numeral.ofNat address.port.toNat)

theorem enclosed_zero (address : NodeAddress) : address.enclosed 0 0 = address.text := by
  rw [← String.toList_inj, toList_text]
  simp [enclosed]

/-! ## Addresses from texts -/

/-- A text spells an address: the host, between any number of brackets, and the port behind the last
colon. -/
def Spells (text : String) (address : NodeAddress) : Prop :=
  ∃ m n port, text.toList =
      List.replicate m '[' ++ (address.host.toList ++ List.replicate n ']') ++ ':' :: port ∧
    Numeral.Counts port address.port.toNat

theorem ofText_eq_ok {text : String} {address : NodeAddress} (h : ofText text = .ok address) :
    ∃ host port, splitAtLastColon? text.toList = some (host, port) ∧
      Numeral.below? UInt16.size port = some address.port.toNat ∧
      withoutBrackets host = address.host.toList ∧ address.host.toList ≠ [] := by
  unfold ofText at h
  split at h
  · cases h
  · next host port hsplit =>
    split at h
    · cases h
    · next number hport =>
      dsimp only at h
      split_ifs at h with hempty
      cases h
      have hlt := (Numeral.below?_eq_some_iff.1 hport).2
      have hnumber : (UInt16.ofNat number).toNat = number := UInt16.toNat_ofNat_of_lt' hlt
      refine ⟨host, port, hsplit, hnumber.symm ▸ hport, ?_, ?_⟩ <;> rw [String.toList_ofList]
      exact hempty

/-- Exactly the addresses with a bare host are read, from every text that spells them. -/
theorem ofText_eq_ok_iff {text : String} {address : NodeAddress} :
    ofText text = .ok address ↔ IsBare address.host.toList ∧ Spells text address := by
  constructor
  · intro h
    obtain ⟨host, port, hsplit, hport, hhost, hne⟩ := ofText_eq_ok h
    obtain ⟨htext, -⟩ := splitAtLastColon?_eq_some_iff.1 hsplit
    obtain ⟨hcounts, -⟩ := Numeral.below?_eq_some_iff.1 hport
    obtain ⟨hbare, m, n, rfl⟩ := (withoutBrackets_eq_iff hne).1 hhost
    exact ⟨hbare, m, n, port, htext, hcounts⟩
  · rintro ⟨hbare, m, n, port, htext, hcounts⟩
    have hport := Numeral.below?_eq_some_iff.2 ⟨hcounts, address.port.toNat_lt⟩
    simp only [ofText, htext, splitAtLastColon?_append (colon_notMem_of_counts hcounts), hport,
      withoutBrackets_enclosed hbare, if_neg hbare.1, String.ofList_toList, UInt16.ofNat_toNat]

theorem spells_enclosed (address : NodeAddress) (m n : Nat) :
    Spells (address.enclosed m n) address :=
  ⟨m, n, _, String.toList_ofList, Numeral.counts_ofNat _⟩

theorem spells_text (address : NodeAddress) : Spells address.text address :=
  enclosed_zero address ▸ address.spells_enclosed 0 0

theorem ofText_enclosed {address : NodeAddress} (h : IsBare address.host.toList) (m n : Nat) :
    ofText (address.enclosed m n) = .ok address :=
  ofText_eq_ok_iff.2 ⟨h, address.spells_enclosed m n⟩

/-- An address is read from its own text if and only if its host is bare. Whatever else a text
contains, the address that is read from it is read from its own text too. No two addresses have the
same text. -/
theorem ofText_text_iff :
    (∀ address, ofText address.text = .ok address ↔ IsBare address.host.toList) ∧
      (∀ text address, ofText text = .ok address → ofText address.text = .ok address) ∧
      ∀ one other : NodeAddress, one.text = other.text → one = other := by
  have hown (address : NodeAddress) :
      ofText address.text = .ok address ↔ IsBare address.host.toList :=
    ofText_eq_ok_iff.trans (and_iff_left address.spells_text)
  refine ⟨hown, ?_, fun one other h => text_injective h⟩
  intro text address h
  exact (hown address).2 (ofText_eq_ok_iff.1 h).1

/-- A bracket inside the host, more of them around it, a sign and a zero in front of the port; and a
host that is no more than a bracket. -/
theorem ofText_text_iff_brackets :
    let address : NodeAddress := ⟨"a:[b", 80⟩
    ofText "[[a:[b]:+080" = .ok address ∧ ofText address.text = .ok address ∧
      ofText (⟨"[", 80⟩ : NodeAddress).text ≠ .ok ⟨"[", 80⟩ ∧
      (⟨"a:8", 0⟩ : NodeAddress).text ≠ (⟨"a", 80⟩ : NodeAddress).text := by
  intro address
  obtain ⟨hown, hagain, hsame⟩ := ofText_text_iff
  have hread : ofText "[[a:[b]:+080" = .ok address := by decide +kernel
  have hbracket : ¬IsBare "[".toList := fun h => h.2.1 rfl
  refine ⟨hread, hagain _ _ hread, fun h => hbracket ((hown _).1 h), fun h => ?_⟩
  exact absurd (hsame _ _ h) (by decide)

end NodeAddress

end ClusterBatch
