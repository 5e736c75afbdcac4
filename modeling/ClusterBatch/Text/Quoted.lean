import ClusterBatch.Bytes
import ClusterBatch.Text.Printable

/-!
# Quoted text

How texts and octets look in diagnostic output: between double quotes, with a backslash before
whatever could be mistaken or not be seen. Characters that cannot be shown appear by number.
-/

namespace ClusterBatch.Text

/-- The lower-case hexadecimal numeral of `n`. -/
def hexadecimal (n : Nat) : List Char := Nat.toDigits 16 n

/-- A character as it appears inside quotes. -/
def quotedChar (c : Char) : List Char :=
  if c = '\x00' then ['\\', '0']
  else if c = '\t' then ['\\', 't']
  else if c = '\r' then ['\\', 'r']
  else if c = '\n' then ['\\', 'n']
  else if c = '\\' then ['\\', '\\']
  else if c = '"' then ['\\', '"']
  else if isPrintable c then [c]
  else ['\\', 'u', '\x7b'] ++ hexadecimal c.toNat ++ ['\x7d']

def quote (text : String) : String :=
  String.ofList (['"'] ++ text.toList.flatMap quotedChar ++ ['"'])

/-- An octet as it appears inside quotes: printable ASCII as itself, most others as two
hexadecimal digits. -/
def quotedOctet (b : UInt8) : List Char :=
  let n := b.toNat
  if n = 0 then ['\\', '0']
  else if n = 9 then ['\\', 't']
  else if n = 10 then ['\\', 'n']
  else if n = 13 then ['\\', 'r']
  else if n = 0x5c then ['\\', '\\']
  else if n = 0x22 then ['\\', '"']
  else if 0x20 ≤ n ∧ n < 0x7f then [Char.ofNat n]
  else ['\\', 'x', Nat.digitChar (n / 16), Nat.digitChar (n % 16)]

/-- Octets between quotes, marked as octets by the letter in front. -/
def quoteOctets (bytes : Bytes) : String :=
  String.ofList (['b', '"'] ++ bytes.flatMap quotedOctet ++ ['"'])

end ClusterBatch.Text
