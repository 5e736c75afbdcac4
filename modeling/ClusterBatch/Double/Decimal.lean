import ClusterBatch.Double.Rounding
import ClusterBatch.Text.Numeral

/-!
# Reading doubles

A decimal is a whole number times a power of ten. Its text may have a sign, a decimal point with
digits on at least one side of it, and an exponent; `inf`, `infinity` and `nan` are accepted in
any letter case. The double read is the one nearest to the decimal.

Main statement: `Decimal.magnitude_eq_of_units`, a decimal that is exactly the value of a double
is read as that double.
-/

namespace ClusterBatch

/-- The number `digits` times ten to the power `exponent`. -/
structure Decimal where
  digits : Nat
  exponent : Int
  deriving DecidableEq, Repr

namespace Decimal

/-- The magnitude nearest to a decimal. A decimal that is certainly beyond the largest double or
below half the smallest one is not written out as a fraction. -/
def magnitude (d : Decimal) : Fin 0x7ff0000000000001 :=
  if d.digits = 0 then 0
  else if 400 < d.exponent then Double.infinite
  else if d.exponent < -(400 + d.digits.log2 : Int) then 0
  else Double.nearest (d.digits * Nat.pow 10 d.exponent.toNat) (Nat.pow 10 (-d.exponent).toNat)

/-- The decimal of a text without a sign: digits around an optional point, then an optional
exponent. -/
def ofText? (text : List Char) : Option Decimal :=
  let whole := text.takeWhile Char.isDigit
  let rest := text.dropWhile Char.isDigit
  let fraction := match rest with
    | '.' :: rest => rest.takeWhile Char.isDigit
    | _ => []
  let rest := match rest with
    | '.' :: rest => rest.dropWhile Char.isDigit
    | rest => rest
  if whole ++ fraction = [] then none
  else
    let digits := Nat.ofDigitChars 10 (whole ++ fraction) 0
    match rest with
    | [] => some ⟨digits, -fraction.length⟩
    | c :: exponent =>
      if c = 'e' ∨ c = 'E' then
        (Numeral.integer? exponent).map fun e => ⟨digits, e - fraction.length⟩
      else none

theorem magnitude_eq_of_units {d : Decimal} {m : Fin 0x7ff0000000000001}
    (hd : d.digits ≠ 0) (hhi : d.exponent ≤ 400) (hlo : -(400 + d.digits.log2 : Int) ≤ d.exponent)
    (h : (d.digits * Nat.pow 10 d.exponent.toNat) <<< Double.fineness
      = Double.units m * Nat.pow 10 (-d.exponent).toNat) : d.magnitude = m := by
  rw [magnitude, if_neg hd, if_neg (by omega), if_neg (by omega)]
  exact Double.nearest_units m _ _ (Nat.pow_pos (by decide)) h

end Decimal

namespace Double

def ofUnsigned? (negative : Bool) (text : List Char) : Option Double :=
  match Decimal.ofText? text with
  | some d => some (.number negative d.magnitude)
  | none =>
    let word := text.map Char.toLower
    if word = ['i', 'n', 'f'] ∨ word = ['i', 'n', 'f', 'i', 'n', 'i', 't', 'y'] then
      some (infinity negative)
    else if word = ['n', 'a', 'n'] then some .nan
    else none

def ofText? : List Char → Option Double
  | '-' :: text => ofUnsigned? true text
  | '+' :: text => ofUnsigned? false text
  | text => ofUnsigned? false text

end Double

end ClusterBatch
