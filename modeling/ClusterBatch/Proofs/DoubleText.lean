import ClusterBatch.Double.Layout

/-!
# Texts of doubles

The text of a double in a reply is read as that double: its digits are those of a decimal that
rounds to the double, and writing the decimal out with a point keeps its value.

Main statement: `Double.ofText?_replyText`.
-/

namespace ClusterBatch

/-- Characters of numerals and of the words that stand for doubles. They are ASCII and none of them
ends a line. -/
def IsVisible (c : Char) : Prop := 0x20 < c.toNat ∧ c.toNat < 0x7f

namespace Bytes

theorem chars_ofChars {text : List Char} (h : ∀ c ∈ text, IsVisible c) :
    (ofChars text).chars = text := by
  have hc : ∀ c ∈ text, Char.ofNat (ofChar c).toNat = c := by
    intro c hmem
    have hlt := (h c hmem).2
    have hto : (ofChar c).toNat = c.toNat := by
      rw [ofChar, UInt8.toNat_ofNat']
      omega
    rw [hto, Char.ofNat_toNat]
  simpa [chars, ofChars, Function.comp_def] using List.map_congr_left hc

theorem cr_not_mem_ofChars {text : List Char} (h : ∀ c ∈ text, IsVisible c) :
    cr ∉ ofChars text := by
  intro hmem
  obtain ⟨c, hc, heq⟩ := List.mem_map.1 hmem
  obtain ⟨hlo, hhi⟩ := h c hc
  have hto := congrArg UInt8.toNat heq
  rw [ofChar, UInt8.toNat_ofNat'] at hto
  simp [cr] at hto
  omega

end Bytes

theorem isVisible_of_isDigit {c : Char} (h : c.isDigit) : IsVisible c := by
  simp only [Char.isDigit, Bool.and_eq_true, decide_eq_true_eq, UInt32.le_iff_toNat_le] at h
  obtain ⟨hlo, hhi⟩ := h
  change 48 ≤ c.toNat at hlo
  change c.toNat ≤ 57 at hhi
  exact ⟨by omega, by omega⟩

namespace Numeral

theorem isVisible_ofNat {n : Nat} : ∀ c ∈ ofNat n, IsVisible c :=
  fun _ h => isVisible_of_isDigit (isDigit_of_mem_ofNat h)

theorem isVisible_ofInt {n : Int} : ∀ c ∈ ofInt n, IsVisible c := by
  intro c h
  cases n with
  | ofNat n => exact isVisible_ofNat c h
  | negSucc n =>
    rcases List.mem_cons.1 h with rfl | h
    · exact ⟨by decide, by decide⟩
    · exact isVisible_ofNat c h

end Numeral

namespace Decimal

/-! ## Digits around a point -/

variable {whole fraction : List Char}

theorem span_digits {digits : List Char} (rest : List Char) (h : ∀ c ∈ digits, c.isDigit)
    (hrest : ∀ c ∈ rest.head?, ¬c.isDigit) :
    (digits ++ rest).takeWhile Char.isDigit = digits ∧
      (digits ++ rest).dropWhile Char.isDigit = rest := by
  rw [List.takeWhile_append_of_pos h, List.dropWhile_append_of_pos h]
  cases rest with
  | nil => simp
  | cons c rest =>
    have hc := hrest c rfl
    rw [List.takeWhile_cons_of_neg hc, List.dropWhile_cons_of_neg hc]
    exact ⟨List.append_nil _, rfl⟩

theorem ofText?_digits (hne : whole ≠ []) (h : ∀ c ∈ whole, c.isDigit) :
    ofText? whole = some ⟨Nat.ofDigitChars 10 whole 0, 0⟩ := by
  obtain ⟨htake, hdrop⟩ := span_digits [] h (by simp)
  rw [List.append_nil] at htake hdrop
  simp [ofText?, htake, hdrop, hne]

theorem ofText?_point (hne : whole ≠ []) (hw : ∀ c ∈ whole, c.isDigit)
    (hf : ∀ c ∈ fraction, c.isDigit) :
    ofText? (whole ++ '.' :: fraction)
      = some ⟨Nat.ofDigitChars 10 (whole ++ fraction) 0, -fraction.length⟩ := by
  obtain ⟨htake, hdrop⟩ := span_digits ('.' :: fraction) hw (by simp)
  obtain ⟨htake', hdrop'⟩ := span_digits [] hf (by simp)
  rw [List.append_nil] at htake' hdrop'
  simp [ofText?, htake, hdrop, htake', hdrop', hne]

/-- Zeros at the end of a whole number stand for a power of ten. -/
theorem magnitude_shift (n e : Nat) (h : n = 0 ∨ e ≤ 400) :
    magnitude ⟨Nat.pow 10 e * n, 0⟩ = magnitude ⟨n, e⟩ := by
  by_cases hn : n = 0
  · simp [magnitude, hn]
  · have he : e ≤ 400 := h.resolve_left hn
    have hpos : Nat.pow 10 e * n ≠ 0 :=
      Nat.mul_ne_zero (Nat.ne_of_gt (Nat.pow_pos (by decide : 0 < 10))) hn
    have hbelow (exponent : Int) (hexponent : 0 ≤ exponent) (digits : Nat) :
        ¬exponent < -(400 + digits.log2 : Int) := by omega
    have hsmall : ¬(400 : Int) < e := by omega
    rw [magnitude, magnitude, if_neg hpos, if_neg hn, if_neg (by decide : ¬(400 : Int) < 0),
      if_neg (hbelow 0 (Int.le_refl 0) _), if_neg hsmall,
      if_neg (hbelow e (Int.natCast_nonneg e) _)]
    simp [Nat.mul_comm]

theorem exponent_le_of_magnitude_ne {d : Decimal} (h : d.magnitude ≠ Double.infinite) :
    d.digits = 0 ∨ d.exponent ≤ 400 := by
  by_cases hd : d.digits = 0
  · exact .inl hd
  · by_cases he : 400 < d.exponent
    · exact absurd (by rw [magnitude, if_neg hd, if_pos he]) h
    · exact .inr (by omega)

/-- A decimal that is written without an exponent is read back with the same value. -/
theorem ofText?_positional {d : Decimal} (h : d.magnitude ≠ Double.infinite) :
    ∃ read, ofText? d.positional = some read ∧ read.magnitude = d.magnitude := by
  obtain ⟨n, e⟩ := d
  have hdigit : ∀ c ∈ Numeral.ofNat n, c.isDigit := fun c => Numeral.isDigit_of_mem_ofNat
  have hne := Numeral.ofNat_ne_nil n
  have hvalue : Nat.ofDigitChars 10 (Numeral.ofNat n) 0 = n := Nat.ofDigitChars_ten_toDigits
  have hzero (k : Nat) : ∀ c ∈ List.replicate k '0', c.isDigit :=
    fun c hc => (List.eq_of_mem_replicate hc) ▸ by decide
  unfold positional
  simp only
  split
  · next he =>
    -- A whole number: zeros are written for the power of ten.
    have hdigits : ∀ c ∈ Numeral.ofNat n ++ List.replicate e.toNat '0', c.isDigit := by
      intro c hc
      exact (List.mem_append.1 hc).elim (hdigit c) (hzero _ c)
    refine ⟨_, ofText?_digits (by simp [hne]) hdigits, ?_⟩
    rw [Nat.ofDigitChars_append, hvalue, Nat.ofDigitChars_replicate_zero]
    have hshift := magnitude_shift n e.toNat
      ((exponent_le_of_magnitude_ne h).imp_right fun (h : e ≤ 400) => by omega)
    rwa [Int.toNat_of_nonneg he] at hshift
  · next he =>
    split
    · next hpoint =>
      -- The point stands among the digits.
      have hlen : (Numeral.ofNat n).length ≠ 0 := by simpa using hne
      have hexp : (-((Numeral.ofNat n).drop (((Numeral.ofNat n).length : Int) + e).toNat).length
          : Int) = e := by
        simp
        omega
      refine ⟨_, ofText?_point ?_ (fun c hc => hdigit c (List.mem_of_mem_take hc))
        (fun c hc => hdigit c (List.mem_of_mem_drop hc)), ?_⟩
      · intro hnil
        have hnil := congrArg List.length hnil
        rw [List.length_take, List.length_nil] at hnil
        omega
      · rw [List.take_append_drop, hvalue, hexp]
    · next hpoint =>
      -- Zeros stand between the point and the digits.
      have hexp : (-(List.replicate (-(((Numeral.ofNat n).length : Int) + e)).toNat '0'
          ++ Numeral.ofNat n).length : Int) = e := by
        simp
        omega
      have hfraction : ∀ c ∈ List.replicate (-(((Numeral.ofNat n).length : Int) + e)).toNat '0'
          ++ Numeral.ofNat n, c.isDigit :=
        fun c hc => (List.mem_append.1 hc).elim (hzero _ c) (hdigit c)
      rw [List.cons_append, List.cons_append]
      refine ⟨_, ofText?_point (List.cons_ne_nil '0' []) (hzero 1) hfraction, ?_⟩
      have hstart : Nat.ofDigitChars 10 ['0'] 0 = 0 := rfl
      rw [hexp, Nat.ofDigitChars_append, Nat.ofDigitChars_append,
        Nat.ofDigitChars_replicate_zero, hstart, Nat.mul_zero, hvalue]

theorem mem_positional {d : Decimal} {c : Char} (h : c ∈ d.positional) : c.isDigit ∨ c = '.' := by
  have hdigit (hc : c ∈ Numeral.ofNat d.digits) : c.isDigit := Numeral.isDigit_of_mem_ofNat hc
  have hzero {k : Nat} (hc : c ∈ List.replicate k '0') : c.isDigit :=
    (List.eq_of_mem_replicate hc) ▸ by decide
  unfold positional at h
  simp only at h
  split at h
  · exact (List.mem_append.1 h).elim (fun h => .inl (hdigit h)) (fun h => .inl (hzero h))
  · split at h
    · rcases List.mem_append.1 h with h | h
      · exact .inl (hdigit (List.mem_of_mem_take h))
      · rcases List.mem_cons.1 h with h | h
        · exact .inr h
        · exact .inl (hdigit (List.mem_of_mem_drop h))
    · simp only [List.cons_append, List.mem_cons, List.mem_append] at h
      rcases h with rfl | h | h | h
      · exact .inl (by decide)
      · exact .inr h
      · exact .inl (hzero h)
      · exact .inl (hdigit h)

theorem positional_eq_cons (d : Decimal) : ∃ c rest, d.positional = c :: rest ∧ c.isDigit := by
  obtain ⟨c, rest, hdigits, hc⟩ := Numeral.head_ofNat d.digits
  unfold positional
  simp only [hdigits]
  split
  · exact ⟨c, _, rfl, hc⟩
  · split
    · next hpoint =>
      obtain ⟨k, hk⟩ : ∃ k, (((c :: rest).length : Int) + d.exponent).toNat = k + 1 :=
        ⟨(((c :: rest).length : Int) + d.exponent).toNat - 1, by omega⟩
      rw [hk]
      exact ⟨c, _, rfl, hc⟩
    · exact ⟨'0', _, rfl, by decide⟩

end Decimal

namespace Double

theorem ofUnsigned?_positional (negative : Bool) {m : Fin 0x7ff0000000000001} (h : m ≠ infinite) :
    ofUnsigned? negative (shortest m).positional = some (.number negative m) := by
  have hm := magnitude_shortest m
  obtain ⟨read, hread, hmag⟩ := Decimal.ofText?_positional (d := shortest m) (by rwa [hm])
  rw [ofUnsigned?, hread]
  simp only
  rw [hmag, hm]

/-- A text that begins with a digit or a letter has no sign. -/
theorem ofText?_signed {negative : Bool} {c : Char} {rest : List Char} (hm : c ≠ '-')
    (hp : c ≠ '+') :
    ofText? (signed negative (c :: rest)) = ofUnsigned? negative (c :: rest) := by
  cases negative with
  | true => rfl
  | false =>
    unfold signed ofText?
    split <;> simp_all

/-- The text of a double in a reply is read as that double. -/
theorem ofText?_replyText (d : Double) : ofText? d.replyText = some d := by
  cases d with
  | nan => rfl
  | number negative m =>
    simp only [replyText]
    by_cases hm : m = infinite
    · rw [if_pos hm, hm, ofText?_signed (by decide) (by decide)]
      rfl
    · rw [if_neg hm]
      obtain ⟨c, rest, htext, hc⟩ := Decimal.positional_eq_cons (shortest m)
      have hread := ofUnsigned?_positional negative hm
      rw [htext] at hread ⊢
      rw [ofText?_signed, hread]
      · rintro rfl
        exact absurd hc (by decide)
      · rintro rfl
        exact absurd hc (by decide)

theorem isVisible_replyText (d : Double) : ∀ c ∈ d.replyText, IsVisible c := by
  have visible {text : List Char} (h : text.all fun c => 0x20 < c.toNat && c.toNat < 0x7f) :
      ∀ c ∈ text, IsVisible c := by
    intro c hc
    simpa [IsVisible] using List.all_eq_true.1 h c hc
  intro c h
  cases d with
  | nan => exact visible (by decide) c h
  | number negative m =>
    have hbody : ∀ c ∈ (if m = infinite then ['i', 'n', 'f'] else (shortest m).positional),
        IsVisible c := by
      intro c hc
      split at hc
      · exact visible (by decide) c hc
      · rcases Decimal.mem_positional hc with hc | rfl
        · exact isVisible_of_isDigit hc
        · exact ⟨by decide, by decide⟩
    cases negative with
    | true => exact (List.mem_cons.1 h).elim (fun h => h ▸ ⟨by decide, by decide⟩) (hbody c)
    | false => exact hbody c h

end Double

end ClusterBatch
