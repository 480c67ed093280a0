import Converge.Http.Domain.MarkTable
import Converge.Text.CodePoint

/-!
# Directions

Some scripts are written from right to left. As soon as one character of a domain name is, every label
of the name has to be of one direction: it begins with a letter of that direction, holds nothing of the
other, and ends with a letter or a digit, marks aside. The tables are about the characters that stand
in domain names; what stands in none may be in them or not.
-/

namespace Converge.Http.Domain

open Text (inRanges)

/-- How a character takes part in the direction of a text. -/
inductive Direction where
  | leftToRight
  | rightToLeft
  | arabicNumber
  | europeanNumber
  /-- The character goes with the one before it. -/
  | mark
  /-- The character takes the direction of those around it. -/
  | neutral
deriving DecidableEq, Repr

/-! ## Tables -/

/-- The letters that are written from right to left. -/
def rightToLeftRanges : List (Nat × Nat) := [
  (1470, 1470), (1472, 1472), (1475, 1475), (1478, 1478), (1488, 1524), (1544, 1544), (1547, 1547),
  (1549, 1549), (1563, 1610), (1645, 1647), (1649, 1749), (1765, 1766), (1774, 1775), (1786, 1808),
  (1810, 1839), (1869, 1957), (1969, 2026), (2036, 2037), (2042, 2042), (2046, 2069), (2074, 2074),
  (2084, 2084), (2088, 2088), (2096, 2136), (2142, 2191), (2208, 2249), (64434, 64450),
  (65139, 65139), (67584, 67867), (67872, 68096), (68112, 68149), (68160, 68324), (68331, 68405),
  (68416, 68899), (68938, 68943), (68975, 69007), (69248, 69289), (69293, 69322), (69376, 69445),
  (69457, 69505), (69510, 69622), (124928, 125135), (125218, 125251), (125259, 126269)]

/-- The digits of numbers within Arabic text. -/
def arabicNumberRanges : List (Nat × Nat) := [
  (1632, 1641), (1643, 1644), (68912, 68937), (69216, 69246)]

/-- The digits of numbers within any text. -/
def europeanNumberRanges : List (Nat × Nat) := [
  (48, 57), (1776, 1785), (66273, 66299)]

/-- The signs and symbols without a direction of their own. -/
def neutralRanges : List (Nat × Nat) := [
  (0, 8), (14, 27), (33, 47), (58, 96), (123, 215), (247, 247), (697, 698), (706, 719), (722, 749),
  (751, 767), (885, 885), (1014, 1014), (1418, 1423), (1542, 1543), (1545, 1546), (1548, 1548),
  (1550, 1551), (1642, 1642), (1758, 1758), (1769, 1769), (2038, 2041), (2546, 2547), (2555, 2555),
  (2801, 2801), (3059, 3066), (3192, 3198), (3647, 3647), (3898, 3901), (5008, 5017), (5120, 5120),
  (5787, 5788), (6107, 6107), (6128, 6154), (6464, 6469), (6622, 6655), (8204, 8388), (8452, 8525),
  (8586, 9013), (9083, 9108), (9110, 9899), (9901, 10239), (10496, 11263), (11493, 11498),
  (11513, 11519), (11776, 12292), (12296, 12320), (12336, 12336), (12343, 12343), (12349, 12351),
  (12448, 12448), (12539, 12539), (12736, 12773), (19904, 19967), (42128, 42182), (42509, 42511),
  (42611, 42611), (42622, 42623), (42752, 42785), (42888, 42888), (43048, 43051), (43064, 43065),
  (43124, 43127), (43882, 43883), (64451, 65023), (65093, 65094), (65793, 65793), (65856, 65932),
  (65936, 65952), (67871, 67871), (68409, 68415), (68974, 68974), (69328, 69358), (69714, 69733),
  (71264, 71276), (73685, 73713), (94178, 94178), (117760, 118512), (119273, 119361),
  (119365, 119365), (119552, 119638), (121600, 121855), (123647, 123647), (126704, 127279),
  (127341, 127343), (127405, 127406), (127584, 130042)]

/-- The letters of scripts written from left to right that take no space of their own: vowel signs
that are the front of one that does, and some that once did. -/
def spacelessLetterRanges : List (Nat × Nat) := [
  (3263, 3263), (3270, 3270), (6970, 6970), (6972, 6972), (6978, 6978), (72199, 72200), (72767, 72767)]

/-! ## The rule -/

def directionOf (c : Char) : Direction :=
  let n := c.toNat
  if inRanges spacelessLetterRanges n then .leftToRight
  else if inRanges nonspacingRanges n then .mark
  else if inRanges rightToLeftRanges n then .rightToLeft
  else if inRanges arabicNumberRanges n then .arabicNumber
  else if inRanges europeanNumberRanges n then .europeanNumber
  else if inRanges neutralRanges n then .neutral
  else .leftToRight

def isRightToLeft (c : Char) : Bool :=
  match directionOf c with
  | .rightToLeft | .arabicNumber => true
  | _ => false

/-- The last direction of a list that is not a mark. -/
def lastDirection? (ds : List Direction) : Option Direction := ds.reverse.find? (· ≠ .mark)

/-- Is a label of these directions of one direction? -/
def isOneWay : List Direction → Bool
  | [] => true
  | .leftToRight :: ds =>
    ds.all (fun d => d ≠ .rightToLeft ∧ d ≠ .arabicNumber) &&
      (lastDirection? (.leftToRight :: ds)).all fun d => d = .leftToRight ∨ d = .europeanNumber
  | .rightToLeft :: ds =>
    ds.all (· ≠ .leftToRight) && !(ds.contains .arabicNumber && ds.contains .europeanNumber) &&
      (lastDirection? (.rightToLeft :: ds)).all (· ≠ .neutral)
  | _ => false

/-- Do the labels of a name agree with the directions of its characters? -/
def respectsDirections (labels : List (List Char)) : Bool :=
  !(labels.any fun cs => cs.any isRightToLeft) || labels.all fun cs => isOneWay (cs.map directionOf)

end Converge.Http.Domain
