/-!
# Bytes

Everything that travels to or from a node is a list of octets. Lines of the wire format are
ASCII, so this module also carries the passage between octets and characters of the same number.

Main statement: `Bytes.ofChars_chars`, no octet is lost when a line is looked at as characters.
-/

namespace ClusterBatch

abbrev Bytes := List UInt8

namespace Bytes

/-- The octet with the number of `c`; meant for characters below 256. -/
def ofChar (c : Char) : UInt8 := UInt8.ofNat c.toNat

def ofChars (text : List Char) : Bytes := text.map ofChar

def ofAscii (text : String) : Bytes := ofChars text.toList

/-- Each octet as the character of the same number. -/
def chars (bytes : Bytes) : List Char := bytes.map fun b => Char.ofNat b.toNat

def cr : UInt8 := 13

def lf : UInt8 := 10

/-- The mark that ends every line and every payload. -/
def crlf : Bytes := [cr, lf]

theorem ofChar_ofNat (b : UInt8) : ofChar (Char.ofNat b.toNat) = b := by
  have hb : b.toNat < 256 := b.toNat_lt
  have hv : b.toNat.isValidChar := Or.inl (by omega)
  have h : (Char.ofNat b.toNat).toNat = b.toNat := by rw [Char.ofNat, dif_pos hv]; rfl
  simp [ofChar, h]

@[simp] theorem ofChars_chars (bytes : Bytes) : ofChars bytes.chars = bytes := by
  simp [ofChars, chars, Function.comp_def, ofChar_ofNat]

@[simp] theorem length_ofChars (text : List Char) : (ofChars text).length = text.length := by
  simp [ofChars]

end Bytes

end ClusterBatch
