import ClusterBatch.Json.Reader
import ClusterBatch.Json.Writer
import ClusterBatch.Proofs.DoubleText
import Mathlib

/-!
# Texts of JSON values

A value is read from its own text, unless it has a number that is not an integer or a string that
stands for no text. Whatever follows the text of a value is left over if it cannot belong to a
number. Each value takes no more steps to read than its text has characters.

Main statement: `Json.read?_write`.
-/

namespace ClusterBatch

/-- Only zero is written with a zero in front. -/
theorem Numeral.eq_zero_of_ofNat {n : Nat} {rest : List Char} (h : ofNat n = '0' :: rest) :
    n = 0 := by
  induction n using Nat.strongRecOn generalizing rest with
  | ind n ih =>
    by_cases hn : n < 10
    · have hdigit : ofNat n = [Nat.digitChar n] := Nat.toDigits_of_lt_base hn
      rw [hdigit] at h
      interval_cases n
      · rfl
      all_goals exact absurd (List.head_eq_of_cons_eq h) (by decide)
    · rw [ofNat, Nat.toDigits_of_base_le (by decide) (Nat.le_of_not_lt hn)] at h
      obtain ⟨c, digits, hdigits, -⟩ := head_ofNat (n / 10)
      have hc : c = '0' := by
        have hhead := congrArg List.head? h
        rw [← ofNat, hdigits] at hhead
        simpa using hhead
      have hzero := ih (n / 10) (by omega) (hc ▸ hdigits)
      omega

namespace Json

variable {bound : Nat} {text rest : List Char}

/-! ## Strings -/

section Strings

variable {numbers : List Nat}

theorem readNumbers?_escape {c : Char} {n : Nat} (hc : c ≠ 'u') (hn : escaped? c = some n)
    (h : readNumbers? text = some (numbers, rest)) :
    readNumbers? ('\\' :: c :: text) = some (n :: numbers, rest) := by
  rw [readNumbers?.eq_def]
  split
  · next heq => cases heq
  · next heq =>
    cases heq
    exact absurd rfl hc
  · next heq =>
    cases heq
    simp [hn, h]
  · next hne heq =>
    cases heq
    exact absurd rfl (hne _ _ rfl)
  · next heq => cases heq

theorem readNumbers?_hexadecimal {a b c d : Char} {n : Nat} (hn : hexNumber? a b c d = some n)
    (h : readNumbers? text = some (numbers, rest)) :
    readNumbers? ('\\' :: 'u' :: a :: b :: c :: d :: text) = some (n :: numbers, rest) := by
  simp [readNumbers?, hn, h]

theorem readNumbers?_char {c : Char} (hquote : c ≠ '"') (hbackslash : c ≠ '\\')
    (hcontrol : ¬c.toNat < 0x20) (h : readNumbers? text = some (numbers, rest)) :
    readNumbers? (c :: text) = some (c.toNat :: numbers, rest) := by
  rw [readNumbers?.eq_def]
  split <;> simp_all

theorem hexDigit?_digitChar {n : Nat} (h : n < 16) : hexDigit? (Nat.digitChar n) = some n := by
  interval_cases n <;> rfl

/-- A character is read from the way it is written in a string. -/
theorem readNumbers?_stringChar (c : Char) (h : readNumbers? text = some (numbers, rest)) :
    readNumbers? (stringChar c ++ text) = some (c.toNat :: numbers, rest) := by
  fun_cases stringChar c with
  | case1 hquote => exact readNumbers?_escape (by decide) (by rw [hquote]; rfl) h
  | case2 _ hbackslash => exact readNumbers?_escape (by decide) (by rw [hbackslash]; rfl) h
  | case3 _ _ hback => exact readNumbers?_escape (by decide) (by rw [hback]; rfl) h
  | case4 _ _ _ hform => exact readNumbers?_escape (by decide) (by rw [hform]; rfl) h
  | case5 _ _ _ _ hline => exact readNumbers?_escape (by decide) (by rw [hline]; rfl) h
  | case6 _ _ _ _ _ hreturn => exact readNumbers?_escape (by decide) (by rw [hreturn]; rfl) h
  | case7 _ _ _ _ _ _ htab => exact readNumbers?_escape (by decide) (by rw [htab]; rfl) h
  | case8 _ _ _ _ _ _ _ hcontrol =>
    have hhigh := hexDigit?_digitChar (n := c.toNat / 16) (by omega)
    have hlow := hexDigit?_digitChar (n := c.toNat % 16) (by omega)
    have hzero : hexDigit? '0' = some 0 := rfl
    have hnumber : c.toNat / 16 * 16 + c.toNat % 16 = c.toNat := Nat.div_add_mod' _ _
    exact readNumbers?_hexadecimal (by simp [hexNumber?, hhigh, hlow, hzero, hnumber]) h
  | case9 hquote hbackslash _ _ _ _ _ hcontrol =>
    exact readNumbers?_char hquote hbackslash hcontrol h

theorem readNumbers?_text (text rest : List Char) :
    readNumbers? (text.flatMap stringChar ++ '"' :: rest) = some (text.map Char.toNat, rest) := by
  induction text with
  | nil => rfl
  | cons c text ih =>
    rw [List.flatMap_cons, List.append_assoc, readNumbers?_stringChar c ih, List.map_cons]

/-- No character is half of a surrogate pair. -/
theorem isSurrogate_toNat (c : Char) :
    isHighSurrogate c.toNat = false ∧ isLowSurrogate c.toNat = false := by
  have hvalid : c.toNat < 0xd800 ∨ 0xdfff < c.toNat ∧ c.toNat < 0x110000 := c.valid
  simp only [isHighSurrogate, isLowSurrogate, Bool.and_eq_false_iff, decide_eq_false_iff_not]
  omega

theorem charsOfNumbers?_map_toNat (text : List Char) :
    charsOfNumbers? (text.map Char.toNat) = some text := by
  induction text with
  | nil => rfl
  | cons c text ih =>
    obtain ⟨hhigh, hlow⟩ := isSurrogate_toNat c
    cases text with
    | nil => simp [charsOfNumbers?, hhigh, hlow]
    | cons d text =>
      rw [List.map_cons] at ih
      simp [charsOfNumbers?, hhigh, hlow, ih]

theorem readString?_text (text : String) (rest : List Char) :
    readString? (text.toList.flatMap stringChar ++ '"' :: rest) = some (some text, rest) := by
  simp [readString?, readNumbers?_text, charsOfNumbers?_map_toNat]

end Strings

/-! ## Numbers -/

/-- Whether a text may stand behind a value: it is empty or goes on with the end of an item, an
array or an object. -/
def IsBoundary (rest : List Char) : Prop := ∀ c ∈ rest.head?, c = ',' ∨ c = ']' ∨ c = '\x7d'

theorem IsBoundary.cases (h : IsBoundary rest) :
    rest = [] ∨ ∃ tail, rest = ',' :: tail ∨ rest = ']' :: tail ∨ rest = '\x7d' :: tail := by
  cases rest with
  | nil => exact .inl rfl
  | cons c tail => rcases h c rfl with rfl | rfl | rfl <;> simp

theorem isBoundary_cons {c : Char} (h : c = ',' ∨ c = ']' ∨ c = '\x7d') :
    IsBoundary (c :: text) := by
  rintro d ⟨⟩
  exact h

theorem readDigits?_append {digits : List Char} (hne : digits ≠ [])
    (hdigits : ∀ c ∈ digits, c.isDigit) (hrest : IsBoundary rest) :
    readDigits? (digits ++ rest) = some (digits, rest) := by
  have hstop : ∀ c ∈ rest.head?, ¬c.isDigit := by
    intro c hc
    rcases hrest c hc with rfl | rfl | rfl <;> decide
  obtain ⟨htake, hdrop⟩ := Decimal.span_digits rest hdigits hstop
  simp only [readDigits?, htake, hdrop, if_neg hne]

/-- Digits that do not begin with zero are an integer, if no other part of a number follows. -/
theorem readUnsigned?_of_readDigits? {c : Char} {digits : List Char} (hc : c ≠ '0')
    (h : readDigits? (c :: text) = some (digits, rest)) (hrest : IsBoundary rest) :
    readUnsigned? (c :: text) = some (true, digits, rest) := by
  unfold readUnsigned?
  split
  · next heq =>
    cases heq
    exact absurd rfl hc
  · rw [h]
    rcases hrest.cases with rfl | ⟨tail, rfl | rfl | rfl⟩ <;> rfl

theorem readUnsigned?_ofNat (n : Nat) (hrest : IsBoundary rest) :
    readUnsigned? (Numeral.ofNat n ++ rest) = some (true, Numeral.ofNat n, rest) := by
  by_cases hn : n = 0
  · subst hn
    rcases hrest.cases with rfl | ⟨tail, rfl | rfl | rfl⟩ <;> rfl
  · have hread := readDigits?_append (Numeral.ofNat_ne_nil n)
      (fun c => Numeral.isDigit_of_mem_ofNat) hrest
    obtain ⟨c, digits, hc, -⟩ := Numeral.head_ofNat n
    rw [hc] at hread ⊢
    have hzero : c ≠ '0' := fun h => hn (Numeral.eq_zero_of_ofNat (h ▸ hc))
    exact readUnsigned?_of_readDigits? hzero hread hrest

theorem readNumber?_ofInt (value : Int) (hrest : IsBoundary rest) :
    readNumber? (Numeral.ofInt value ++ rest) = some (.integer value, rest) := by
  cases value with
  | ofNat n =>
    have hread := readUnsigned?_ofNat n hrest
    have hvalue : Nat.ofDigitChars 10 (Numeral.ofNat n) 0 = n := Nat.ofDigitChars_ten_toDigits
    obtain ⟨c, digits, hc, hdigit⟩ := Numeral.head_ofNat n
    have hsign : c ≠ '-' := by
      rintro rfl
      exact absurd hdigit (by decide)
    rw [hc] at hvalue
    rw [hc, List.cons_append] at hread
    rw [Numeral.ofInt, hc, List.cons_append]
    simp [readNumber?, hread, hvalue, hsign]
  | negSucc n =>
    have hread := readUnsigned?_ofNat (n + 1) hrest
    have hvalue : Nat.ofDigitChars 10 (Numeral.ofNat (n + 1)) 0 = n + 1 :=
      Nat.ofDigitChars_ten_toDigits
    rw [Numeral.ofInt, List.cons_append]
    simp [readNumber?, hread, hvalue, Int.negSucc_eq]

/-! ## Steps of the reader -/

theorem skipBlanks_cons {c : Char} (text : List Char) (h : isBlank c = false) :
    skipBlanks (c :: text) = c :: text :=
  List.dropWhile_cons_of_neg (by simp [h])

theorem readValue?_string {s : String} (h : readString? text = some (some s, rest)) :
    readValue? (bound + 1) ('"' :: text) = some (.string s, rest) := by
  rw [readValue?, skipBlanks_cons _ rfl]
  simp only [h, Option.map_some]

theorem readValue?_array {c : Char} {items : List Json} (hblank : isBlank c = false)
    (hc : c ≠ ']') (h : readItems? bound (c :: text) = some (items, rest)) :
    readValue? (bound + 1) ('[' :: c :: text) = some (.array items, rest) := by
  rw [readValue?, skipBlanks_cons _ rfl]
  simp only [skipBlanks_cons _ hblank]
  split
  · next heq =>
    cases heq
    exact absurd rfl hc
  · rw [h, Option.map_some]

theorem readValue?_object {members : List (Option String × Json)}
    (h : readMembers? bound ('"' :: text) = some (members, rest)) :
    readValue? (bound + 1) ('\x7b' :: '"' :: text) = some (.object members, rest) := by
  rw [readValue?, skipBlanks_cons _ rfl]
  change (readMembers? bound ('"' :: text)).map _ = _
  rw [h, Option.map_some]

/-- What begins no other value is read as a number. -/
theorem readValue?_number {c : Char} (hblank : isBlank c = false)
    (hc : c ∉ ['n', 't', 'f', '"', '[', '\x7b']) :
    readValue? (bound + 1) (c :: text) = readNumber? (c :: text) := by
  simp only [List.mem_cons, List.not_mem_nil, or_false, not_or] at hc
  obtain ⟨hn, ht, hf, hquote, hbracket, hbrace⟩ := hc
  rw [readValue?, skipBlanks_cons _ hblank]
  split
  · next heq => cases heq; exact absurd rfl hn
  · next heq => cases heq; exact absurd rfl ht
  · next heq => cases heq; exact absurd rfl hf
  · next heq => cases heq; exact absurd rfl hquote
  · next heq => cases heq; exact absurd rfl hbracket
  · next heq => cases heq; exact absurd rfl hbrace
  · rfl

theorem readItems?_last {item : Json} (h : readValue? bound text = some (item, ']' :: rest)) :
    readItems? (bound + 1) text = some ([item], rest) := by
  rw [readItems?, h]
  rfl

theorem readItems?_next {item : Json} {items : List Json} {more : List Char}
    (h : readValue? bound text = some (item, ',' :: more))
    (hmore : readItems? bound more = some (items, rest)) :
    readItems? (bound + 1) text = some (item :: items, rest) := by
  rw [readItems?, h]
  change (readItems? bound more).bind _ = _
  rw [hmore]
  rfl

theorem readMembers?_last {name : String} {value : Json} {named : List Char}
    (hname : readString? text = some (some name, ':' :: named))
    (hvalue : readValue? bound named = some (value, '\x7d' :: rest)) :
    readMembers? (bound + 1) ('"' :: text) = some ([(some name, value)], rest) := by
  rw [readMembers?, skipBlanks_cons _ rfl]
  change (readString? text).bind _ = _
  rw [hname]
  change (readValue? bound named).bind _ = _
  rw [hvalue]
  rfl

theorem readMembers?_next {name : String} {value : Json} {named more : List Char}
    {members : List (Option String × Json)}
    (hname : readString? text = some (some name, ':' :: named))
    (hvalue : readValue? bound named = some (value, ',' :: more))
    (hmore : readMembers? bound more = some (members, rest)) :
    readMembers? (bound + 1) ('"' :: text) = some ((some name, value) :: members, rest) := by
  rw [readMembers?, skipBlanks_cons _ rfl]
  change (readString? text).bind _ = _
  rw [hname]
  change (readValue? bound named).bind _ = _
  rw [hvalue]
  change (readMembers? bound more).bind _ = _
  rw [hmore]
  rfl

/-! ## Values -/

/-- A value that its text determines: every number in it is an integer and every string stands for a
text. -/
inductive IsExact : Json → Prop
  | null : IsExact .null
  | boolean (value : Bool) : IsExact (.boolean value)
  | integer (value : Int) : IsExact (.integer value)
  | string (text : String) : IsExact (.string (some text))
  | array {items : List Json} (hitems : ∀ item ∈ items, IsExact item) : IsExact (.array items)
  | object {members : List (Option String × Json)}
    (hnames : ∀ member ∈ members, member.1.isSome)
    (hvalues : ∀ member ∈ members, IsExact member.2) : IsExact (.object members)

theorem writeItems_eq (items : List Json) : writeItems items = items.map write := by
  induction items with
  | nil => rfl
  | cons item items ih => rw [writeItems, ih, List.map_cons]

def writeMember (member : Option String × Json) : List Char :=
  writeString member.1 ++ ':' :: write member.2

theorem writeMembers_eq (members : List (Option String × Json)) :
    writeMembers members = members.map writeMember := by
  induction members with
  | nil => rfl
  | cons member members ih =>
    rw [writeMembers, ih]
    rfl

theorem separated_cons (text : List Char) {texts : List (List Char)} (h : texts ≠ []) :
    separated (text :: texts) = text ++ ',' :: separated texts := by
  cases texts with
  | nil => exact absurd rfl h
  | cons next texts => rfl

theorem exists_separated_eq_cons (c : Char) (text : List Char) (texts : List (List Char)) :
    ∃ tail, separated ((c :: text) :: texts) = c :: tail := by
  cases texts <;> exact ⟨_, rfl⟩

/-- The text of an integer begins with a digit or a minus sign, that of any value with neither a
blank nor the end of an array. -/
theorem exists_ofInt_eq_cons (value : Int) : ∃ c text, Numeral.ofInt value = c :: text ∧
    isBlank c = false ∧ c ≠ ']' ∧ c ∉ ['n', 't', 'f', '"', '[', '\x7b'] := by
  cases value with
  | negSucc n => exact ⟨_, _, rfl, by decide⟩
  | ofNat n =>
    obtain ⟨c, digits, hc, hdigit⟩ := Numeral.head_ofNat n
    have hne (d : Char) (hd : d.isDigit = false) : c ≠ d := by
      rintro rfl
      simp [hdigit] at hd
    refine ⟨c, digits, hc, ?_, hne _ (by decide), ?_⟩
    · simp [isBlank, hne ' ' (by decide), hne '\t' (by decide), hne '\n' (by decide),
        hne '\r' (by decide)]
    · intro hmem
      simp only [List.mem_cons, List.not_mem_nil, or_false] at hmem
      rcases hmem with rfl | rfl | rfl | rfl | rfl | rfl <;> exact absurd hdigit (by decide)

theorem exists_write_eq_cons (value : Json) :
    ∃ c text, write value = c :: text ∧ isBlank c = false ∧ c ≠ ']' := by
  cases value with
  | boolean value => cases value <;> exact ⟨_, _, rfl, by decide⟩
  | integer value =>
    obtain ⟨c, text, hc, hblank, hbracket, -⟩ := exists_ofInt_eq_cons value
    exact ⟨c, text, hc, hblank, hbracket⟩
  | _ => exact ⟨_, _, rfl, by decide⟩

/-- Whether a value is read from its text, in as many steps as the text has characters. -/
def ReadsBack (value : Json) : Prop :=
  ∀ (bound : Nat) (rest : List Char), (write value).length ≤ bound → IsBoundary rest →
    readValue? bound (write value ++ rest) = some (value, rest)

/-- There is a step to begin with, since no text is empty. -/
theorem readsBack_of_succ {value : Json}
    (h : ∀ (bound : Nat) (rest : List Char), (write value).length ≤ bound + 1 → IsBoundary rest →
      readValue? (bound + 1) (write value ++ rest) = some (value, rest)) : ReadsBack value := by
  intro bound rest hbound hrest
  cases bound with
  | zero =>
    obtain ⟨c, text, hc, -⟩ := exists_write_eq_cons value
    simp [hc] at hbound
  | succ bound => exact h bound rest hbound hrest

theorem readsBack_integer (value : Int) : ReadsBack (.integer value) := by
  refine readsBack_of_succ fun bound rest _ hrest => ?_
  have hread := readNumber?_ofInt value hrest
  obtain ⟨c, text, hc, hblank, -, hother⟩ := exists_ofInt_eq_cons value
  rw [hc, List.cons_append] at hread
  rw [write, hc, List.cons_append, readValue?_number hblank hother, hread]

theorem readsBack_string (text : String) : ReadsBack (.string (some text)) := by
  refine readsBack_of_succ fun bound rest _ _ => ?_
  have hread := readString?_text text rest
  rw [write, writeString, List.append_assoc, List.cons_append]
  exact readValue?_string hread

/-- Items that are read one by one are read from their list. Each of them takes one step for itself,
which is made up for by the comma or the bracket behind it. -/
theorem readItems?_separated {items : List Json} (hne : items ≠ [])
    (hitems : ∀ item ∈ items, ReadsBack item) (bound : Nat) (rest : List Char)
    (hbound : (separated (items.map write)).length < bound) :
    readItems? bound (separated (items.map write) ++ ']' :: rest) = some (items, rest) := by
  induction items generalizing bound with
  | nil => exact absurd rfl hne
  | cons item items ih =>
    obtain ⟨hitem, hitems⟩ := List.forall_mem_cons.1 hitems
    obtain _ | bound := bound
    · simp at hbound
    by_cases hlast : items = []
    · subst hlast
      have hread := hitem bound (']' :: rest) (Nat.le_of_lt_succ hbound) (isBoundary_cons (by simp))
      exact readItems?_last hread
    · rw [List.map_cons, separated_cons _ (by simpa using hlast)] at hbound ⊢
      simp only [List.length_append, List.length_cons] at hbound
      have hread := hitem bound (',' :: (separated (items.map write) ++ ']' :: rest)) (by omega)
        (isBoundary_cons (by simp))
      have hmore := ih hlast hitems bound (by omega)
      rw [List.append_assoc, List.cons_append]
      exact readItems?_next hread hmore

theorem readMembers?_separated {members : List (Option String × Json)} (hne : members ≠ [])
    (hnames : ∀ member ∈ members, member.1.isSome)
    (hvalues : ∀ member ∈ members, ReadsBack member.2) (bound : Nat) (rest : List Char)
    (hbound : (separated (members.map writeMember)).length < bound) :
    readMembers? bound (separated (members.map writeMember) ++ '\x7d' :: rest) =
      some (members, rest) := by
  induction members generalizing bound with
  | nil => exact absurd rfl hne
  | cons member members ih =>
    obtain ⟨_ | name, value⟩ := member
    · exact nomatch hnames _ List.mem_cons_self
    obtain ⟨-, hnamed⟩ := List.forall_mem_cons.1 hnames
    obtain ⟨(hvalue : ReadsBack value), hvalues⟩ := List.forall_mem_cons.1 hvalues
    obtain _ | bound := bound
    · simp at hbound
    have htext (more : List Char) : writeMember (some name, value) ++ more =
        '"' :: (name.toList.flatMap stringChar ++ '"' :: ':' :: (write value ++ more)) := by
      simp [writeMember, writeString]
    have hlength : (write value).length + 3 ≤ (writeMember (some name, value)).length := by
      simp [writeMember, writeString]
    by_cases hlast : members = []
    · subst hlast
      change (writeMember (some name, value)).length < bound + 1 at hbound
      have hread := hvalue bound ('\x7d' :: rest) (by omega) (isBoundary_cons (by simp))
      exact (htext _).symm ▸ readMembers?_last (readString?_text name _) hread
    · rw [List.map_cons, separated_cons _ (by simpa using hlast)] at hbound ⊢
      simp only [List.length_append, List.length_cons] at hbound
      have hread := hvalue bound (',' :: (separated (members.map writeMember) ++ '\x7d' :: rest))
        (by omega) (isBoundary_cons (by simp))
      have hmore := ih hlast hnamed hvalues bound (by omega)
      rw [List.append_assoc, List.cons_append, htext]
      exact readMembers?_next (readString?_text name _) hread hmore

theorem readsBack_array {items : List Json} (hitems : ∀ item ∈ items, ReadsBack item) :
    ReadsBack (.array items) := by
  refine readsBack_of_succ fun bound rest hbound hrest => ?_
  rw [write, writeItems_eq] at hbound ⊢
  cases items with
  | nil => rfl
  | cons item items =>
    have hlength : (separated ((item :: items).map write)).length < bound := by
      simp only [List.length_append, List.length_cons] at hbound
      omega
    have hread := readItems?_separated (List.cons_ne_nil item items) hitems bound rest hlength
    obtain ⟨c, text, hc, hblank, hbracket⟩ := exists_write_eq_cons item
    obtain ⟨tail, htail⟩ := exists_separated_eq_cons c text (items.map write)
    rw [List.map_cons, hc, htail, List.cons_append] at hread
    rw [List.map_cons, hc, htail, List.append_assoc, List.cons_append]
    exact readValue?_array hblank hbracket hread

theorem readsBack_object {members : List (Option String × Json)}
    (hnames : ∀ member ∈ members, member.1.isSome)
    (hvalues : ∀ member ∈ members, ReadsBack member.2) : ReadsBack (.object members) := by
  refine readsBack_of_succ fun bound rest hbound hrest => ?_
  rw [write, writeMembers_eq] at hbound ⊢
  cases members with
  | nil => rfl
  | cons member members =>
    have hlength : (separated ((member :: members).map writeMember)).length < bound := by
      simp only [List.length_append, List.length_cons] at hbound
      omega
    have hread := readMembers?_separated (List.cons_ne_nil member members) hnames hvalues bound rest
      hlength
    obtain ⟨text, htext⟩ : ∃ text, writeMember member = '"' :: text := ⟨_, rfl⟩
    obtain ⟨tail, htail⟩ := exists_separated_eq_cons '"' text (members.map writeMember)
    rw [List.map_cons, htext, htail, List.cons_append] at hread
    rw [List.map_cons, htext, htail, List.append_assoc, List.cons_append]
    exact readValue?_object hread

theorem IsExact.readsBack {value : Json} (h : IsExact value) : ReadsBack value := by
  induction h with
  | null => exact readsBack_of_succ fun bound rest _ _ => rfl
  | boolean value => cases value <;> exact readsBack_of_succ fun bound rest _ _ => rfl
  | integer value => exact readsBack_integer value
  | string text => exact readsBack_string text
  | array _ ih => exact readsBack_array ih
  | object hnames _ ih => exact readsBack_object hnames ih

/-- A value that its text determines is read from it. -/
theorem read?_write {value : Json} (h : IsExact value) :
    read? (String.ofList value.write) = some value := by
  have hread := h.readsBack ((write value).length + 1) [] (Nat.le_succ _) nofun
  rw [List.append_nil] at hread
  simp only [read?, String.toList_ofList, hread]
  rfl

end Json

end ClusterBatch
