import Converge.Http.Domain.CompositionTable
import Converge.Http.Domain.Joining

/-!
# Composition

A letter with marks can be written in several ways: as one character, or as a letter and marks in one
order or another. **`Domain.composed`** brings the characters of a domain name into one of them: every
character is taken apart, the marks on one letter are put in order of their classes, and what can be one
character becomes one.
-/

namespace Converge.Http.Domain

/-! ## Hangul -/

/-- The first syllable. There are 588 for each consonant, and 28 of these for each vowel. -/
def hangulSyllable : Nat := 44032

/-- The first of 19 consonants. -/
def hangulConsonant : Nat := 4352

/-- The first of 21 vowels. -/
def hangulVowel : Nat := 4449

/-- What stands before the first of 27 final consonants. -/
def hangulFinal : Nat := 4519

def syllableParts? (n : Nat) : Option (List Nat) :=
  if hangulSyllable ≤ n ∧ n < hangulSyllable + 11172 then
    let i := n - hangulSyllable
    let front := [hangulConsonant + i / 588, hangulVowel + i % 588 / 28]
    some (if i % 28 = 0 then front else front ++ [hangulFinal + i % 28])
  else none

def syllable? (a b : Nat) : Option Nat :=
  if hangulConsonant ≤ a ∧ a < hangulConsonant + 19 ∧ hangulVowel ≤ b ∧ b < hangulVowel + 21 then
    some (hangulSyllable + (a - hangulConsonant) * 588 + (b - hangulVowel) * 28)
  else if hangulSyllable ≤ a ∧ a < hangulSyllable + 11172 ∧ (a - hangulSyllable) % 28 = 0 ∧
      hangulFinal < b ∧ b < hangulFinal + 28 then
    some (a + (b - hangulFinal))
  else none

/-! ## Taking apart -/

/-- The parts of a character; `depth` bounds how often a part is taken apart again. -/
def parts : Nat → Nat → List Nat
  | 0, n => [n]
  | depth + 1, n =>
    match syllableParts? n, compositions.find? fun r => r.2.2 = n with
    | some ns, _ => ns
    | none, some r => parts depth r.1 ++ [r.2.1]
    | none, none => [n]

/-- The parts of a character, none of which has parts. -/
def decomposed (c : Char) : List Char := (parts 4 c.toNat).map Char.ofNat

/-- Puts a character in front of others whose marks are in order; a mark goes behind those of lower
classes. -/
def place (c : Char) : List Char → List Char
  | [] => [c]
  | d :: ds =>
    if 0 < combiningClass d ∧ combiningClass d < combiningClass c then d :: place c ds else c :: d :: ds

/-- The characters with the marks on each letter in order. -/
def ordered (cs : List Char) : List Char := cs.foldr place []

/-! ## Putting together -/

def compose? (a b : Char) : Option Char :=
  match syllable? a.toNat b.toNat,
    compositions.find? fun r => decide (r.1 = a.toNat ∧ r.2.1 = b.toNat) with
  | some n, _ => some (Char.ofNat n)
  | none, some r => some (Char.ofNat r.2.2)
  | none, none => none

/-- Puts a letter together with what follows it. `marks` are the marks on it that stay, last first; a
mark of the same class or a higher one keeps the next one away from the letter. -/
def composedFrom (letter : Char) (marks : List Char) : List Char → List Char
  | [] => letter :: marks.reverse
  | c :: cs =>
    let blocked := (marks.head?.map fun m => decide (combiningClass c ≤ combiningClass m)).getD false
    match if blocked then none else compose? letter c with
    | some d => composedFrom d marks cs
    | none =>
      if combiningClass c = 0 then letter :: marks.reverse ++ composedFrom c [] cs
      else composedFrom letter (c :: marks) cs

def joined : List Char → List Char
  | [] => []
  | c :: cs => if combiningClass c = 0 then composedFrom c [] cs else c :: joined cs

/-- The one way to write the characters. -/
def composed (cs : List Char) : List Char := joined (ordered (cs.flatMap decomposed))

end Converge.Http.Domain
