import Converge.Http.Domain.Composition
import Converge.Http.Domain.FormTable
import Converge.Http.Domain.RefusedTable
import Converge.Text.LowerCase
import Converge.Text.Split

/-!
# The form of a name

A domain name has one form however it is typed: letters in lower case and in their plain shape, letters
and marks composed, and without the characters that do not count. A name with a character that stands in
no name has none.
-/

namespace Converge.Http.Domain

open Text (inRanges)

def tableForm? (n : Nat) : Option (List Char) :=
  match (formBlocks.filter fun b => decide (b.1 ≤ n)).getLast? with
  | some (first, forms) => (Text.splitOn (fun c => c = ' ') forms.toList)[n - first]?
  | none => none

/-- The form of a character, which is empty if it does not count. -/
def formOf? (c : Char) : Option (List Char) :=
  let n := c.toNat
  if n < 128 then some [c.toLower]
  else if inRanges ignoredRanges n then some []
  else if inRanges refusedRanges n then none
  else some ((tableForm? n).getD (Text.lowerChar c))

def form? (cs : List Char) : Option (List Char) := (cs.mapM formOf?).map fun ps => composed ps.flatten

/-- Is the text the form of itself? -/
def isForm (cs : List Char) : Bool := cs.all (fun c => formOf? c = some [c]) && composed cs = cs

end Converge.Http.Domain
