import ClusterBatch.Double.Shortest

/-!
# Layouts of doubles

Where the point goes and when an exponent is written. Commands and replies write doubles
positionally, however many zeros that takes; diagnostic output keeps a digit after the point of
whole numbers and turns to an exponent for very large and very small ones.
-/

namespace ClusterBatch

namespace Decimal

/-- A decimal without an exponent. Whole numbers have no point. -/
def positional (d : Decimal) : List Char :=
  let digits := Numeral.ofNat d.digits
  let point := (digits.length : Int) + d.exponent
  if 0 ≤ d.exponent then digits ++ List.replicate d.exponent.toNat '0'
  else if 0 < point then digits.take point.toNat ++ '.' :: digits.drop point.toNat
  else '0' :: '.' :: List.replicate (-point).toNat '0' ++ digits

def scientific (d : Decimal) : List Char :=
  let digits := Numeral.ofNat d.digits
  let exponent := Numeral.ofInt ((digits.length : Int) + d.exponent - 1)
  match digits with
  | [] => []
  | [first] => first :: 'e' :: exponent
  | first :: rest => first :: '.' :: rest ++ 'e' :: exponent

end Decimal

namespace Double

/-- A text with the sign of a number in front, positive ones having none. -/
def signed (negative : Bool) (text : List Char) : List Char :=
  if negative then '-' :: text else text

def replyText : Double → List Char
  | .nan => ['n', 'a', 'n']
  | .number negative m =>
    signed negative (if m = infinite then ['i', 'n', 'f'] else (shortest m).positional)

/-- The text of a number given as an argument: as in a reply, but positive infinity has its
sign. NaN has no such text. -/
def argumentText? : Double → Option (List Char)
  | .nan => none
  | .number negative m =>
    if m = infinite then some ((if negative then '-' else '+') :: ['i', 'n', 'f'])
    else some (signed negative (shortest m).positional)

/-- Whether diagnostic output gives a finite magnitude an exponent: at ten to the power 16 and
above, and below ten to the power -4 except for zero. -/
def wantsExponent (m : Fin 0x7ff0000000000001) : Bool :=
  Decimal.magnitude ⟨1, 16⟩ ≤ m || (m.val ≠ 0 && m < Decimal.magnitude ⟨1, -4⟩)

def diagnosticText : Double → List Char
  | .nan => ['N', 'a', 'N']
  | .number negative m =>
    signed negative <|
      if m = infinite then ['i', 'n', 'f']
      else
        let d := shortest m
        if wantsExponent m then d.scientific
        else if 0 ≤ d.exponent then d.positional ++ ['.', '0']
        else d.positional

end Double

end ClusterBatch
