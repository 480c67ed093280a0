import Converge.Http.Domain.Direction
import Converge.Http.Domain.Form
import Converge.Http.Punycode

/-!
# Domain names

A domain name is a sequence of labels with points between them, and is written in ASCII: a label that
goes beyond ASCII is encoded behind the mark `xn--`. A label that is given encoded has to be one that
could have been given decoded. As encoding takes a time that grows faster than the label, labels that
are encoded have a greatest length.

**`Domain.ascii?`** is the ASCII form of a name.
-/

namespace Converge.Http.Domain

def isAscii (cs : List Char) : Bool := cs.all fun c => decide (c.toNat < 128)

/-- Does the character go with the one before it? -/
def isMark (c : Char) : Bool :=
  Text.inRanges nonspacingRanges c.toNat || Text.inRanges spacingRanges c.toNat

/-- The greatest length of a label that goes beyond ASCII. -/
def maximalLength : Nat := 1000

/-- The greatest length of an encoded label without its mark. -/
def maximalEncodedLength : Nat := 2000

/-- May the characters be a label that goes beyond ASCII? -/
def isLabel (cs : List Char) : Bool :=
  cs.length ≤ maximalLength && !(cs.head?.map isMark).getD false && joinersFit [] cs

structure Label where
  /-- The label as it is read. -/
  text : List Char
  /-- The label as it is written. -/
  ascii : List Char
deriving DecidableEq, Repr

/-- What stands before an encoded label. -/
def encodedMark : List Char := ['x', 'n', '-', '-']

/-- The label of characters in their form. -/
def label? (cs : List Char) : Option Label :=
  if encodedMark.isPrefixOf cs then
    if isAscii cs && cs.length ≤ encodedMark.length + maximalEncodedLength then
      match Punycode.decode? (cs.drop encodedMark.length) with
      | some text => if !isAscii text && isForm text && isLabel text then some ⟨text, cs⟩ else none
      | none => none
    else none
  else if isAscii cs then some ⟨cs, cs⟩
  else if isLabel cs then some ⟨cs, encodedMark ++ Punycode.encode cs⟩
  else none

def labels? (cs : List Char) : Option (List Label) := do
  let labels ← (Text.splitOn (fun c => c = '.') (← form? cs)).mapM label?
  if respectsDirections (labels.map (·.text)) then return labels else none

def ascii? (cs : List Char) : Option (List Char) :=
  (labels? cs).map fun labels => ['.'].intercalate (labels.map (·.ascii))

end Converge.Http.Domain
