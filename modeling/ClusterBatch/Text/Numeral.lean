import ClusterBatch.Bytes

/-!
# Decimal numerals

Whole numbers are written without leading zeros, a minus sign before the negative ones. Reading
is more liberal: leading zeros and a plus sign are accepted, nothing else is.

Main statements: `Numeral.natural?_ofNat` and `Numeral.integer?_ofInt`, what is written reads
back.
-/

namespace ClusterBatch.Numeral

def ofNat (n : Nat) : List Char := Nat.toDigits 10 n

def ofInt : Int → List Char
  | .ofNat n => ofNat n
  | .negSucc n => '-' :: ofNat (n + 1)

def natural? (text : List Char) : Option Nat :=
  if text ≠ [] ∧ text.all Char.isDigit then some (Nat.ofDigitChars 10 text 0) else none

/-- The value of digits that a sign may precede. -/
def integer? : List Char → Option Int
  | '-' :: digits => (natural? digits).map fun n => -(n : Int)
  | '+' :: digits => (natural? digits).map Int.ofNat
  | digits => (natural? digits).map Int.ofNat

/-- The value of digits that a plus sign may precede, if it is below `bound`. -/
def below? (bound : Nat) (text : List Char) : Option Nat :=
  let digits := match text with
    | '+' :: digits => digits
    | digits => digits
  (natural? digits).filter (· < bound)

def int64? (text : List Char) : Option Int64 :=
  (integer? text).bind fun n =>
    if Int64.minValue.toInt ≤ n ∧ n ≤ Int64.maxValue.toInt then some (Int64.ofInt n) else none

theorem isDigit_of_mem_ofNat {n : Nat} {c : Char} (h : c ∈ ofNat n) : c.isDigit :=
  Nat.isDigit_of_mem_toDigits (by decide) (by decide) h

theorem ofNat_ne_nil (n : Nat) : ofNat n ≠ [] := Nat.toDigits_ne_nil

@[simp] theorem natural?_ofNat (n : Nat) : natural? (ofNat n) = some n := by
  have h : (ofNat n).all Char.isDigit := List.all_eq_true.2 fun _ => isDigit_of_mem_ofNat
  rw [natural?, if_pos ⟨ofNat_ne_nil n, h⟩, ofNat, Nat.ofDigitChars_ten_toDigits]

/-- A numeral of digits begins with neither sign. -/
theorem head_ofNat (n : Nat) : ∃ c rest, ofNat n = c :: rest ∧ c.isDigit := by
  match h : ofNat n with
  | [] => exact absurd h (ofNat_ne_nil n)
  | c :: rest => exact ⟨c, rest, rfl, isDigit_of_mem_ofNat (h ▸ List.mem_cons_self)⟩

theorem integer?_of_natural {n : Nat} : integer? (ofNat n) = some (n : Int) := by
  obtain ⟨c, rest, hc, hd⟩ := head_ofNat n
  have hn := natural?_ofNat n
  rw [hc] at hn ⊢
  unfold integer?
  split
  · simp_all
  · simp_all
  · simp [hn]

@[simp] theorem integer?_ofInt (n : Int) : integer? (ofInt n) = some n := by
  cases n with
  | ofNat n => exact integer?_of_natural
  | negSucc n => simp [ofInt, integer?, Int.negSucc_eq]

@[simp] theorem int64?_ofInt (n : Int64) : int64? (ofInt n.toInt) = some n := by
  rw [int64?, integer?_ofInt, Option.bind_some, if_pos ⟨n.minValue_le_toInt, n.toInt_le⟩,
    Int64.ofInt_toInt]

end ClusterBatch.Numeral
