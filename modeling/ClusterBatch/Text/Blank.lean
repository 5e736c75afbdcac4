/-!
# Blank characters

Two classes of white space: the ASCII one, which separates the words of a redirect, and the
Unicode one, which is cut off both ends of an error line.
-/

namespace ClusterBatch.Text

/-- Space, tab, line feed, form feed and carriage return. -/
def isAsciiBlank (c : Char) : Bool :=
  c = ' ' || c = '\t' || c = '\n' || c.toNat = 0x0c || c = '\r'

/-- The characters with the Unicode property `White_Space`. -/
def isBlank (c : Char) : Bool :=
  let n := c.toNat
  (0x09 ≤ n && n ≤ 0x0d) || n = 0x20 || n = 0x85 || n = 0xa0 || n = 0x1680 ||
    (0x2000 ≤ n && n ≤ 0x200a) || n = 0x2028 || n = 0x2029 || n = 0x202f || n = 0x205f ||
    n = 0x3000

def trim (text : List Char) : List Char :=
  ((text.dropWhile isBlank).reverse.dropWhile isBlank).reverse

/-- The words of a text: its longest stretches without an ASCII blank. -/
def words : List Char → List (List Char)
  | [] => []
  | c :: rest =>
    if isAsciiBlank c then words rest
    else (c :: rest.takeWhile (!isAsciiBlank ·)) :: words (rest.dropWhile (!isAsciiBlank ·))
termination_by text => text.length
decreasing_by
  · simp
  · simpa using Nat.lt_succ_of_le (List.dropWhile_suffix _).length_le

end ClusterBatch.Text
