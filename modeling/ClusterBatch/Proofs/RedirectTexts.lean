import ClusterBatch.Proofs.AddressText
import ClusterBatch.Routing

/-!
# Texts of redirects

A redirect is told in three words: its kind, a slot and an address. Blanks of any kind and number
separate words, so that it does not matter what follows the third.

Main statement: `Redirect.ofMessage?_names`.
-/

namespace ClusterBatch

namespace Text

/-- What the words of a text are: stretches without a blank, none of them empty, each as long as it
can be. -/
inductive Splits : List Char → List (List Char) → Prop
  | nil : Splits [] []
  | blank {c : Char} {text : List Char} {tokens : List (List Char)} (hc : isAsciiBlank c)
    (h : Splits text tokens) : Splits (c :: text) tokens
  | token {token text : List Char} {tokens : List (List Char)} (hne : token ≠ [])
    (hsolid : ∀ c ∈ token, isAsciiBlank c = false) (hend : ∀ c ∈ text.head?, isAsciiBlank c)
    (h : Splits text tokens) : Splits (token ++ text) (token :: tokens)

variable {text token : List Char} {tokens : List (List Char)} {c : Char}

theorem words_append (hne : token ≠ []) (hsolid : ∀ c ∈ token, isAsciiBlank c = false)
    (hend : ∀ c ∈ text.head?, isAsciiBlank c) : words (token ++ text) = token :: words text := by
  have hstop : text.takeWhile (!isAsciiBlank ·) = [] ∧ text.dropWhile (!isAsciiBlank ·) = text := by
    cases text with
    | nil => exact ⟨rfl, rfl⟩
    | cons c rest => simp [hend c rfl]
  obtain ⟨first, rest, rfl⟩ := List.exists_cons_of_ne_nil hne
  have hfirst : isAsciiBlank first = false := hsolid first List.mem_cons_self
  have hrest : ∀ c ∈ rest, (!isAsciiBlank c) = true := fun c hc => by
    simp [hsolid c (List.mem_cons_of_mem _ hc)]
  rw [List.cons_append, words, if_neg (by simp [hfirst]), List.takeWhile_append_of_pos hrest,
    List.dropWhile_append_of_pos hrest, hstop.1, hstop.2, List.append_nil]

theorem words_append_space (hne : token ≠ []) (hsolid : ∀ c ∈ token, isAsciiBlank c = false)
    (text : List Char) : words (token ++ ' ' :: text) = token :: words text := by
  have hspace : isAsciiBlank ' ' = true := rfl
  rw [words_append hne hsolid (by simpa using hspace), words, if_pos hspace]

/-- The characters that are blank come before the digits. -/
theorem isAsciiBlank_of_isDigit (h : c.isDigit) : isAsciiBlank c = false := by
  have hdigit : 48 ≤ c.toNat := by
    simp only [Char.isDigit, Bool.and_eq_true, decide_eq_true_eq] at h
    exact UInt32.le_iff_toNat_le.1 h.1
  have hne : ∀ d : Char, d.toNat < 48 → c ≠ d := by
    rintro d hd rfl
    omega
  have hfeed : c.toNat ≠ 0x0c := by omega
  simp [isAsciiBlank, hne ' ' (by decide), hne '\t' (by decide), hne '\n' (by decide),
    hne '\r' (by decide), hfeed]

theorem words_eq_of_splits (h : Splits text tokens) : words text = tokens := by
  induction h with
  | nil => rw [words]
  | blank hc _ ih => rw [words, if_pos hc, ih]
  | token hne hsolid hend _ ih => rw [words_append hne hsolid hend, ih]

theorem splits_words (text : List Char) : Splits text (words text) := by
  fun_induction words text with
  | case1 => exact .nil
  | case2 c rest hc ih => exact .blank hc ih
  | case3 c rest hc ih =>
    have hsolid : ∀ d ∈ c :: rest.takeWhile (!isAsciiBlank ·), isAsciiBlank d = false := by
      intro d hd
      rcases List.mem_cons.1 hd with rfl | hd
      · simpa using hc
      · simpa using List.all_eq_true.1 List.all_takeWhile d hd
    have hend : ∀ d ∈ (rest.dropWhile (!isAsciiBlank ·)).head?, isAsciiBlank d := by
      intro d hd
      have hstop := List.head?_dropWhile_not (!isAsciiBlank ·) rest
      rw [hd] at hstop
      simpa using hstop
    have hsplits := Splits.token (List.cons_ne_nil _ _) hsolid hend ih
    rwa [List.cons_append, List.takeWhile_append_dropWhile] at hsplits

end Text

namespace RedirectKind

theorem ofWord?_eq_some_iff {word : List Char} {kind : RedirectKind} :
    ofWord? word = some kind ↔ word = kind.word.toList := by
  unfold ofWord?
  constructor
  · intro h
    split at h
    · next hmoved => exact Option.some.inj h ▸ hmoved
    · obtain ⟨hask, hkind⟩ := Option.ite_none_right_eq_some.1 h
      exact Option.some.inj hkind ▸ hask
  · rintro rfl
    cases kind <;> decide

theorem ofWord?_eq_none_iff {word : List Char} :
    ofWord? word = none ↔ ∀ kind : RedirectKind, word ≠ kind.word.toList := by
  simp only [Option.eq_none_iff_forall_ne_some, ne_eq, ofWord?_eq_some_iff]

theorem isAsciiBlank_of_mem_word {kind : RedirectKind} :
    ∀ c ∈ kind.word.toList, Text.isAsciiBlank c = false := by
  have hany : kind.word.toList.any Text.isAsciiBlank = false := by cases kind <;> decide
  simpa using hany

end RedirectKind

namespace Redirect

open Text

variable {tokens : List (List Char)}

/-- Whether words tell no redirect: the first names no kind, the second is not the numeral of one of
the 16384 slots, or there is no third. -/
def Unfit (tokens : List (List Char)) : Prop :=
  (∀ kind : RedirectKind, tokens[0]? ≠ some kind.word.toList) ∨
    (∀ slot ∈ tokens[1]?, ∀ n, Numeral.Counts slot n → 16384 ≤ n) ∨ tokens[2]? = none

theorem ofWords?_eq_none_iff : ofWords? tokens = none ↔ Unfit tokens := by
  match tokens with
  | [] | [_] | [_, _] => exact ⟨fun _ => .inr (.inr rfl), fun _ => rfl⟩
  | word :: slot :: address :: rest =>
    have hunfit : Unfit (word :: slot :: address :: rest) ↔
        RedirectKind.ofWord? word = none ∨ Numeral.below? Slot.count slot = none := by
      rw [RedirectKind.ofWord?_eq_none_iff, Numeral.below?_eq_none_iff]
      simp [Unfit, Slot.count]
    rw [hunfit]
    cases hkind : RedirectKind.ofWord? word <;> cases hslot : Numeral.below? Slot.count slot <;>
      simp [ofWords?, hkind, hslot]

theorem ofMessage?_encode (text : String) :
    ofMessage? (Utf8.encode text) = ofWords? (words text.toList) := by
  simp [ofMessage?]

theorem ofMessage?_eq_none_iff (message : Bytes) : ofMessage? message = none ↔
    (∀ text, Utf8.encode text ≠ message) ∨
      ∃ text tokens, Utf8.encode text = message ∧ Splits text.toList tokens ∧ Unfit tokens := by
  cases hdecode : Utf8.decode? message with
  | none =>
    have htext : ∀ text, Utf8.encode text ≠ message := by
      rintro text rfl
      simp at hdecode
    have hnone : ofMessage? message = none := by simp [ofMessage?, hdecode]
    exact ⟨fun _ => .inl htext, fun _ => hnone⟩
  | some text =>
    obtain rfl := Utf8.eq_encode_of_decode? hdecode
    rw [ofMessage?_encode, ofWords?_eq_none_iff]
    constructor
    · exact fun hunfit => .inr ⟨text, _, rfl, splits_words _, hunfit⟩
    · rintro (hnone | ⟨other, tokens, hencode, hsplits, hunfit⟩)
      · exact absurd rfl (hnone text)
      · obtain rfl := Utf8.encode_injective hencode
        rwa [words_eq_of_splits hsplits]

def report (kind : RedirectKind) (slot : Nat) (address further : String) : String :=
  kind.word ++ " " ++ toString slot ++ " " ++ address ++ further

theorem ofMessage?_report {slot : Nat} {address further : String} (kind : RedirectKind)
    (hslot : slot < 16384) (hne : address.toList ≠ [])
    (hsolid : ∀ c ∈ address.toList, isAsciiBlank c = false)
    (hend : ∀ c ∈ further.toList.head?, isAsciiBlank c) :
    ofMessage? (Utf8.encode (report kind slot address further)) = some ⟨kind, slot, address⟩ := by
  have htext : (report kind slot address further).toList = kind.word.toList ++
      ' ' :: (Numeral.ofNat slot ++ ' ' :: (address.toList ++ further.toList)) := by
    simp [report, Numeral.ofNat]
  have hword : kind.word.toList ≠ [] := by cases kind <;> decide
  have hwords : words (report kind slot address further).toList =
      kind.word.toList :: Numeral.ofNat slot :: address.toList :: words further.toList := by
    rw [htext, words_append_space hword RedirectKind.isAsciiBlank_of_mem_word,
      words_append_space (Numeral.ofNat_ne_nil slot) fun c hc =>
        isAsciiBlank_of_isDigit (Numeral.isDigit_of_mem_ofNat hc),
      words_append hne hsolid hend]
  have hkind : RedirectKind.ofWord? kind.word.toList = some kind :=
    RedirectKind.ofWord?_eq_some_iff.2 rfl
  have hread : Numeral.below? Slot.count (Numeral.ofNat slot) = some slot :=
    Numeral.below?_ofNat hslot
  rw [ofMessage?_encode, hwords]
  simp [ofWords?, hkind, hread]

/-! ## Addresses -/

def bracketed (address : NodeAddress) : String :=
  "[" ++ address.host ++ "]:" ++ toString address.port.toNat

variable {address : NodeAddress}

theorem enclosed_one (address : NodeAddress) : address.enclosed 1 1 = bracketed address := by
  rw [← String.toList_inj]
  simp [NodeAddress.enclosed, bracketed, Numeral.ofNat]

theorem isAsciiBlank_of_mem_enclosed (h : ∀ c ∈ address.host.toList, isAsciiBlank c = false)
    (m n : Nat) : ∀ c ∈ (address.enclosed m n).toList, isAsciiBlank c = false := by
  intro c hc
  simp only [NodeAddress.enclosed, String.toList_ofList, List.mem_append, List.mem_cons] at hc
  rcases hc with (hc | hc | hc) | rfl | hc
  · exact List.eq_of_mem_replicate hc ▸ rfl
  · exact h c hc
  · exact List.eq_of_mem_replicate hc ▸ rfl
  · rfl
  · exact isAsciiBlank_of_isDigit (Numeral.isDigit_of_mem_ofNat hc)

theorem ofMessage?_enclosed {slot : Nat} {further : String} (kind : RedirectKind)
    (hslot : slot < 16384) (hbare : NodeAddress.IsBare address.host.toList)
    (hsolid : ∀ c ∈ address.host.toList, isAsciiBlank c = false)
    (hend : ∀ c ∈ further.toList.head?, isAsciiBlank c) (m n : Nat) :
    ofMessage? (Utf8.encode (report kind slot (address.enclosed m n) further)) =
        some ⟨kind, slot, address.enclosed m n⟩ ∧
      Redirect.node ⟨kind, slot, address.enclosed m n⟩ = .ok address := by
  have hne : (address.enclosed m n).toList ≠ [] := by simp [NodeAddress.enclosed]
  refine ⟨ofMessage?_report kind hslot hne (isAsciiBlank_of_mem_enclosed hsolid m n) hend, ?_⟩
  simp only [Redirect.node, NodeAddress.ofText_enclosed hbare]

/-- A redirect to an address is told by its message and leads to exactly that node, also if the host
is in brackets. A message tells no redirect if and only if it is no UTF-8 or its words are unfit. -/
theorem ofMessage?_names :
    (∀ (kind : RedirectKind) (slot : Nat) (address : NodeAddress) (further : String), slot < 16384 →
      NodeAddress.IsBare address.host.toList →
      (∀ c ∈ address.host.toList, isAsciiBlank c = false) →
      (∀ c ∈ further.toList.head?, isAsciiBlank c) →
        ∀ named, named = address.text ∨ named = bracketed address →
          ofMessage? (Utf8.encode (report kind slot named further)) = some ⟨kind, slot, named⟩ ∧
            Redirect.node ⟨kind, slot, named⟩ = .ok address) ∧
      ∀ message, ofMessage? message = none ↔
        (∀ text, Utf8.encode text ≠ message) ∨
          ∃ text tokens, Utf8.encode text = message ∧ Splits text.toList tokens ∧
            Unfit tokens := by
  refine ⟨?_, ofMessage?_eq_none_iff⟩
  rintro kind slot address further hslot hbare hsolid hend named (rfl | rfl)
  · rw [← NodeAddress.enclosed_zero]
    exact ofMessage?_enclosed kind hslot hbare hsolid hend 0 0
  · rw [← enclosed_one]
    exact ofMessage?_enclosed kind hslot hbare hsolid hend 1 1

/-- The highest slot, a host made of colons and digits, a tab in front of more words; and a message
that is no UTF-8. -/
theorem ofMessage?_names_loopback :
    let address : NodeAddress := ⟨"::1", 7000⟩
    ofMessage? (Utf8.encode (report .moved 16383 address.text "\tnow")) =
        some ⟨.moved, 16383, address.text⟩ ∧
      Redirect.node ⟨.moved, 16383, address.text⟩ = .ok address ∧
      ofMessage? (Utf8.encode (report .ask 16383 (bracketed address) "")) =
        some ⟨.ask, 16383, bracketed address⟩ ∧
      Redirect.node ⟨.ask, 16383, bracketed address⟩ = .ok address ∧
      ofMessage? [65, 83, 75, 255] = none := by
  intro address
  obtain ⟨hnames, hnone⟩ := ofMessage?_names
  have hbare : NodeAddress.IsBare address.host.toList := ⟨by decide, by decide, by decide⟩
  have hsolid : ∀ c ∈ address.host.toList, isAsciiBlank c = false := by
    have hany : address.host.toList.any isAsciiBlank = false := by decide
    simpa using hany
  have htab : ∀ c ∈ "\tnow".toList.head?, isAsciiBlank c := fun c hc => Option.some.inj hc ▸ rfl
  have hmalformed : ∀ text, Utf8.encode text ≠ [65, 83, 75, 255] := by
    intro text htext
    have hrefused : Utf8.decode? [65, 83, 75, 255] = none := by decide
    have hread := Utf8.decode?_encode text
    rw [htext, hrefused] at hread
    cases hread
  obtain ⟨hmoved, hto⟩ :=
    hnames .moved 16383 address "\tnow" (by decide) hbare hsolid htab _ (.inl rfl)
  obtain ⟨hask, hthere⟩ :=
    hnames .ask 16383 address "" (by decide) hbare hsolid nofun _ (.inr rfl)
  exact ⟨hmoved, hto, hask, hthere, (hnone _).2 (.inl hmalformed)⟩

end Redirect

end ClusterBatch
