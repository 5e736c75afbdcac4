import ClusterBatch.Json.Basic
import ClusterBatch.Text.Numeral

/-!
# Writing JSON

The compact text of a value: no blanks, and in strings only what must be escaped.
-/

namespace ClusterBatch.Json

def stringChar (c : Char) : List Char :=
  if c = '"' then ['\\', '"']
  else if c = '\\' then ['\\', '\\']
  else if c.toNat = 0x08 then ['\\', 'b']
  else if c.toNat = 0x0c then ['\\', 'f']
  else if c = '\n' then ['\\', 'n']
  else if c = '\r' then ['\\', 'r']
  else if c = '\t' then ['\\', 't']
  else if c.toNat < 0x20 then
    ['\\', 'u', '0', '0', Nat.digitChar (c.toNat / 16), Nat.digitChar (c.toNat % 16)]
  else [c]

/-- A text between quotes. A string that stands for no text is written as an empty one. -/
def writeString (text : Option String) : List Char :=
  '"' :: (text.getD "").toList.flatMap stringChar ++ ['"']

def separated : List (List Char) → List Char
  | [] => []
  | [text] => text
  | text :: texts => text ++ ',' :: separated texts

mutual

/-- The compact text of a value. A number that is not known is written as zero. -/
def write : Json → List Char
  | .null => ['n', 'u', 'l', 'l']
  | .boolean true => ['t', 'r', 'u', 'e']
  | .boolean false => ['f', 'a', 'l', 's', 'e']
  | .integer value => Numeral.ofInt value
  | .otherNumber => ['0']
  | .string text => writeString text
  | .array items => '[' :: separated (writeItems items) ++ [']']
  | .object members => '\x7b' :: separated (writeMembers members) ++ ['\x7d']

def writeItems : List Json → List (List Char)
  | [] => []
  | item :: items => write item :: writeItems items

def writeMembers : List (Option String × Json) → List (List Char)
  | [] => []
  | (name, value) :: members => (writeString name ++ ':' :: write value) :: writeMembers members

end

end ClusterBatch.Json
