import ClusterBatch.Json.Basic
import ClusterBatch.Text.Numeral

/-!
# Reading JSON

`Json.read?` reads a text that is one JSON value with blanks around it. Each step consumes
characters, so the length of the text bounds the recursion.
-/

namespace ClusterBatch.Json

/-- Space, tab, line feed and carriage return. -/
def isBlank (c : Char) : Bool := c = ' ' || c = '\t' || c = '\n' || c = '\r'

def skipBlanks (text : List Char) : List Char := text.dropWhile isBlank

def hexDigit? (c : Char) : Option Nat :=
  let n := c.toNat
  if 0x30 ≤ n ∧ n ≤ 0x39 then some (n - 0x30)
  else if 0x41 ≤ n ∧ n ≤ 0x46 then some (n - 0x41 + 10)
  else if 0x61 ≤ n ∧ n ≤ 0x66 then some (n - 0x61 + 10)
  else none

def hexNumber? (a b c d : Char) : Option Nat := do
  some ((((← hexDigit? a) * 16 + (← hexDigit? b)) * 16 + (← hexDigit? c)) * 16 + (← hexDigit? d))

/-- The character that a letter behind a backslash stands for. -/
def escaped? (c : Char) : Option Nat :=
  if c = '"' then some 0x22
  else if c = '\\' then some 0x5c
  else if c = '/' then some 0x2f
  else if c = 'b' then some 0x08
  else if c = 'f' then some 0x0c
  else if c = 'n' then some 0x0a
  else if c = 'r' then some 0x0d
  else if c = 't' then some 0x09
  else none

/-- The numbers that a string spells up to its closing quote, and what follows that: those of its
characters, and those it gives after a backslash. Control characters must not stand for
themselves. -/
def readNumbers? : List Char → Option (List Nat × List Char)
  | '"' :: rest => some ([], rest)
  | '\\' :: 'u' :: a :: b :: c :: d :: rest => do
    let n ← hexNumber? a b c d
    let (ns, rest) ← readNumbers? rest
    some (n :: ns, rest)
  | '\\' :: c :: rest => do
    let n ← escaped? c
    let (ns, rest) ← readNumbers? rest
    some (n :: ns, rest)
  | c :: rest =>
    if c.toNat < 0x20 then none
    else do
      let (ns, rest) ← readNumbers? rest
      some (c.toNat :: ns, rest)
  | [] => none

/-- Whether a number is the first half of a surrogate pair. -/
def isHighSurrogate (n : Nat) : Bool := 0xd800 ≤ n && n < 0xdc00

/-- Whether a number is the second half of a surrogate pair. -/
def isLowSurrogate (n : Nat) : Bool := 0xdc00 ≤ n && n < 0xe000

/-- The characters with the given numbers, surrogate pairs being joined. Half a pair has no
character. -/
def charsOfNumbers? : List Nat → Option (List Char)
  | [] => some []
  | high :: low :: rest =>
    if isHighSurrogate high && isLowSurrogate low then
      (charsOfNumbers? rest).map
        (Char.ofNat (0x10000 + (high - 0xd800) * 0x400 + (low - 0xdc00)) :: ·)
    else if isHighSurrogate high || isLowSurrogate high then none
    else (charsOfNumbers? (low :: rest)).map (Char.ofNat high :: ·)
  | [n] => if isHighSurrogate n || isLowSurrogate n then none else some [Char.ofNat n]

/-- A string behind its opening quote: its text, if it stands for one, and what follows it. -/
def readString? (text : List Char) : Option (Option String × List Char) := do
  let (numbers, rest) ← readNumbers? text
  some ((charsOfNumbers? numbers).map String.ofList, rest)

def readDigits? (text : List Char) : Option (List Char × List Char) :=
  let digits := text.takeWhile Char.isDigit
  if digits = [] then none else some (digits, text.dropWhile Char.isDigit)

/-- A number without its sign: whether it is written as an integer, its integer digits, and what
follows it. Only the integer zero begins with a zero. -/
def readUnsigned? (text : List Char) : Option (Bool × List Char × List Char) := do
  let (digits, rest) ← match text with
    | '0' :: rest => some (['0'], rest)
    | text => readDigits? text
  let (whole, rest) ← match rest with
    | '.' :: rest => (readDigits? rest).map fun (_, rest) => (false, rest)
    | rest => some (true, rest)
  let exponent := match rest with
    | 'e' :: rest => some rest
    | 'E' :: rest => some rest
    | _ => none
  match exponent with
  | none => some (whole, digits, rest)
  | some exponent =>
    let unsigned := match exponent with
      | '+' :: rest => rest
      | '-' :: rest => rest
      | rest => rest
    (readDigits? unsigned).map fun (_, rest) => (false, digits, rest)

def readNumber? (text : List Char) : Option (Json × List Char) :=
  match text with
  | '-' :: text => do
    let (whole, digits, rest) ← readUnsigned? text
    let n := Nat.ofDigitChars 10 digits 0
    some (if whole && n ≠ 0 then .integer (-n) else .otherNumber, rest)
  | text => do
    let (whole, digits, rest) ← readUnsigned? text
    some (if whole then .integer (Nat.ofDigitChars 10 digits 0) else .otherNumber, rest)

mutual

/-- A value, and what follows it. The first argument bounds the recursion. -/
def readValue? : Nat → List Char → Option (Json × List Char)
  | 0, _ => none
  | bound + 1, text =>
    match skipBlanks text with
    | 'n' :: 'u' :: 'l' :: 'l' :: rest => some (.null, rest)
    | 't' :: 'r' :: 'u' :: 'e' :: rest => some (.boolean true, rest)
    | 'f' :: 'a' :: 'l' :: 's' :: 'e' :: rest => some (.boolean false, rest)
    | '"' :: rest => (readString? rest).map fun (text, rest) => (.string text, rest)
    | '[' :: rest =>
      match skipBlanks rest with
      | ']' :: rest => some (.array [], rest)
      | rest => (readItems? bound rest).map fun (items, rest) => (.array items, rest)
    | '\x7b' :: rest =>
      match skipBlanks rest with
      | '\x7d' :: rest => some (.object [], rest)
      | rest => (readMembers? bound rest).map fun (members, rest) => (.object members, rest)
    | text => readNumber? text

/-- The items of an array from one of them to the closing bracket, and what follows that. -/
def readItems? : Nat → List Char → Option (List Json × List Char)
  | 0, _ => none
  | bound + 1, text => do
    let (item, rest) ← readValue? bound text
    match skipBlanks rest with
    | ',' :: rest => do
      let (items, rest) ← readItems? bound rest
      some (item :: items, rest)
    | ']' :: rest => some ([item], rest)
    | _ => none

/-- The members of an object from one of them to the closing brace, and what follows that. -/
def readMembers? : Nat → List Char → Option (List (Option String × Json) × List Char)
  | 0, _ => none
  | bound + 1, text =>
    match skipBlanks text with
    | '"' :: rest => do
      let (name, rest) ← readString? rest
      match skipBlanks rest with
      | ':' :: rest => do
        let (value, rest) ← readValue? bound rest
        match skipBlanks rest with
        | ',' :: rest => do
          let (members, rest) ← readMembers? bound rest
          some ((name, value) :: members, rest)
        | '\x7d' :: rest => some ([(name, value)], rest)
        | _ => none
      | _ => none
    | _ => none

end

def read? (text : String) : Option Json := do
  let chars := text.toList
  let (value, rest) ← readValue? (chars.length + 1) chars
  if skipBlanks rest = [] then some value else none

end ClusterBatch.Json
