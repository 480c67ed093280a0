import Converge.Text.CodePoint
import Converge.Text.CaseTable

/-!
# Lower case

Unicode lower-casing of text. Every character has its own lower-case form, with one exception: a
capital sigma becomes the final sigma `ς` where it ends a word, which means that a cased character
comes before it and none after it, case-ignorable characters aside.
-/

namespace Converge.Text

def CaseRun.holds (r : CaseRun) (n : Nat) : Bool :=
  decide (r.first ≤ n ∧ n ≤ r.last ∧ (n - r.first) % r.step = 0)

/-- The lower-case form of one code point that has a form of one character. -/
def lowerCodePoint (n : Nat) : Nat :=
  match caseRuns.find? (·.holds n) with
  | some r => ((n : Int) + r.shift).toNat
  | none => n

/-- The lower-case form of a character by itself. Only `İ` has a form of two characters. -/
def lowerChar (c : Char) : List Char :=
  if c = '\u0130' then ['i', '\u0307'] else [Char.ofNat (lowerCodePoint c.toNat)]

def isCased (c : Char) : Bool := inRanges casedRanges c.toNat

def isCaseIgnorable (c : Char) : Bool := inRanges caseIgnorableRanges c.toNat

/-- Is the first character that is not case-ignorable a cased one? -/
def startsCased (cs : List Char) : Bool :=
  match cs.dropWhile isCaseIgnorable with
  | [] => false
  | c :: _ => isCased c

/-- The lower-case form of a text; `before` holds the characters already passed, the last one first. -/
def lowerFrom (before : List Char) : List Char → List Char
  | [] => []
  | c :: rest =>
    (if c = 'Σ' then
      if startsCased before && !startsCased rest then ['ς'] else ['σ']
    else lowerChar c) ++ lowerFrom (c :: before) rest

def lowerCase (s : String) : String := String.ofList (lowerFrom [] s.toList)

end Converge.Text
