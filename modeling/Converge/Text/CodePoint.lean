/-!
# Sets of code points

A set of code points is given by increasing, disjoint ranges. Also here: the Unicode property
White_Space and trimming by it.
-/

namespace Converge.Text

/-- Does a range of the list, both ends included, hold the number? -/
def inRanges (ranges : List (Nat × Nat)) (n : Nat) : Bool :=
  ranges.any fun r => decide (r.1 ≤ n ∧ n ≤ r.2)

/-- The code points with the property White_Space. -/
def whiteSpaceRanges : List (Nat × Nat) := [
  (9, 13), (32, 32), (133, 133), (160, 160), (5760, 5760), (8192, 8202), (8232, 8233),
  (8239, 8239), (8287, 8287), (12288, 12288)]

def isWhiteSpace (c : Char) : Bool := inRanges whiteSpaceRanges c.toNat

/-- Drops the characters of a class at both ends. -/
def trimBoth (p : Char → Bool) (cs : List Char) : List Char :=
  (((cs.dropWhile p).reverse).dropWhile p).reverse

def trim (s : String) : String := String.ofList (trimBoth isWhiteSpace s.toList)

def isBlank (s : String) : Bool := s.toList.all isWhiteSpace

end Converge.Text
