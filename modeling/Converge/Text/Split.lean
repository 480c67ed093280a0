/-!
# Splitting text

The parts of a text between the characters of a class, and the text before and from the first of them.
-/

namespace Converge.Text

/-- The parts of a text between the characters of a class. -/
def splitOn (p : Char → Bool) : List Char → List (List Char)
  | [] => [[]]
  | c :: cs =>
    if p c then [] :: splitOn p cs
    else match splitOn p cs with
      | [] => [[c]]
      | part :: parts => (c :: part) :: parts

/-- The text before the first character of a class, and the text from there on. -/
def breakAt (p : Char → Bool) (cs : List Char) : List Char × List Char :=
  (cs.takeWhile fun c => !p c, cs.dropWhile fun c => !p c)

end Converge.Text
