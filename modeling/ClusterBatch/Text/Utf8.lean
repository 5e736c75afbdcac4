import ClusterBatch.Bytes

/-!
# UTF-8

Text is written as UTF-8. Octets from a node need not be UTF-8, so they are read in two ways:
`Utf8.decode?` refuses anything malformed, `Utf8.lossy` puts the replacement character in the
place of each maximal malformed stretch, which is what messages show.

Main statements: `Utf8.decode?_encode` and `Utf8.eq_encode_of_decode?`, strict reading accepts
exactly what writing produces.
-/

namespace ClusterBatch.Utf8

def encode (text : String) : Bytes := text.toByteArray.data.toList

def decode? (bytes : Bytes) : Option String := String.fromUTF8? ⟨bytes.toArray⟩

/-- Stands for octets that encode nothing. -/
def replacement : Char := Char.ofNat 0xfffd

/-- What an octet promises when it begins a character: how many octets follow it and the range
of the first of them, which excludes overlong forms, surrogates and numbers past the last
character. An octet that begins no longer character promises nothing. -/
def lead (b : UInt8) : Option (Nat × Nat × Nat) :=
  let n := b.toNat
  if n < 0xc2 then none
  else if n < 0xe0 then some (1, 0x80, 0xbf)
  else if n = 0xe0 then some (2, 0xa0, 0xbf)
  else if n = 0xed then some (2, 0x80, 0x9f)
  else if n < 0xf0 then some (2, 0x80, 0xbf)
  else if n = 0xf0 then some (3, 0x90, 0xbf)
  else if n < 0xf4 then some (3, 0x80, 0xbf)
  else if n = 0xf4 then some (3, 0x80, 0x8f)
  else none

/-- How many of the `count` octets that should continue a character do, the first of them being
held to the range `low` to `high` and the others to that of all continuations. -/
def continued (low high : Nat) : Nat → Bytes → Nat
  | 0, _ => 0
  | _, [] => 0
  | count + 1, b :: rest =>
    if low ≤ b.toNat ∧ b.toNat ≤ high then continued 0x80 0xbf count rest + 1 else 0

/-- The number of a character, from the bits of its first octet and the octets that follow. -/
def number (first : Nat) (rest : Bytes) : Nat :=
  rest.foldl (fun n b => n * 64 + b.toNat % 64) first

/-- The characters that `bytes` encode, each maximal malformed stretch read as one
replacement character. -/
def lossyChars : Bytes → List Char
  | [] => []
  | b :: rest =>
    if b.toNat < 0x80 then Char.ofNat b.toNat :: lossyChars rest
    else match lead b with
      | none => replacement :: lossyChars rest
      | some (count, low, high) =>
        let found := continued low high count rest
        if found = count then
          Char.ofNat (number (b.toNat % (64 >>> count)) (rest.take count))
            :: lossyChars (rest.drop count)
        else replacement :: lossyChars (rest.drop found)
termination_by bytes => bytes.length
decreasing_by all_goals (simp only [List.length_cons, List.length_drop]; omega)

def lossy (bytes : Bytes) : String := String.ofList (lossyChars bytes)

@[simp] theorem decode?_encode (text : String) : decode? (encode text) = some text := by
  have h : (⟨(encode text).toArray⟩ : ByteArray) = text.toByteArray := by simp [encode]
  rw [decode?, h]
  simp [String.fromUTF8?, text.isValidUTF8]
  rfl

theorem encode_injective : Function.Injective encode := by
  intro one other h
  have hdecoded := congrArg decode? h
  simpa using hdecoded

theorem eq_encode_of_decode? {bytes : Bytes} {text : String} (h : decode? bytes = some text) :
    bytes = encode text := by
  simp only [decode?, String.fromUTF8?] at h
  split at h
  · obtain rfl := Option.some.inj h
    simp [encode, String.fromUTF8]
  · simp at h

end ClusterBatch.Utf8
