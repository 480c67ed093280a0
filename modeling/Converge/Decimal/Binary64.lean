/-!
# Binary64 magnitudes

The finite nonnegative numbers of the binary64 format as exact integers: `mant * 2 ^ exp`. Every
operation computes the exact result as a quotient of natural numbers and rounds it once, to nearest
with ties to even; it fails where the result is too large for the format.
-/

namespace Converge.Decimal

/-- The number `mant * 2 ^ exp`. -/
structure Magnitude where
  mant : Nat
  exp : Int
deriving DecidableEq, Repr

namespace Magnitude

/-- The quotient rounded to the nearest whole number, a tie to the even one. -/
def roundDiv (num den : Nat) : Nat :=
  let q := num / den
  let r := num % den
  if 2 * r < den then q
  else if den < 2 * r then q + 1
  else if q % 2 = 0 then q else q + 1

def minExp : Int := -1074

def maxExp : Int := 971

/-- The smallest mantissa of 53 bits. -/
def leastNormal : Nat := 4503599627370496

def zero : Magnitude := ⟨0, minExp⟩

/-- Multiplies a fraction by a power of two. -/
def shift (num den : Nat) (k : Int) : Nat × Nat :=
  if 0 ≤ k then (num * Nat.pow 2 k.toNat, den) else (num, den * Nat.pow 2 (-k).toNat)

/-- The exponent at which the quotient has a mantissa of 53 bits, or the smallest one. -/
def exponentFor (num den : Nat) : Int :=
  let e : Int := (Nat.log2 num : Int) - Nat.log2 den - 52
  let (n, d) := shift num den (-e)
  max minExp (if n < d * leastNormal then e - 1 else e)

/-- The number of the format nearest to the quotient; none if that is out of range. -/
def ofRatio (num den : Nat) : Option Magnitude :=
  if num = 0 then some zero
  else
    let e := exponentFor num den
    let (n, d) := shift num den (-e)
    let m := roundDiv n d
    let r : Magnitude := if m = 2 * leastNormal then ⟨leastNormal, e + 1⟩ else ⟨m, e⟩
    if r.exp ≤ maxExp then some r else none

def ratio (x : Magnitude) : Nat × Nat := shift x.mant 1 x.exp

/-- The product, rounded. -/
def mul (x y : Magnitude) : Option Magnitude :=
  ofRatio (x.ratio.1 * y.ratio.1) (x.ratio.2 * y.ratio.2)

/-- The quotient, rounded; the divisor is not zero. -/
def div (x y : Magnitude) : Option Magnitude :=
  ofRatio (x.ratio.1 * y.ratio.2) (x.ratio.2 * y.ratio.1)

def ofNat (n : Nat) : Option Magnitude := ofRatio n 1

end Magnitude

end Converge.Decimal
