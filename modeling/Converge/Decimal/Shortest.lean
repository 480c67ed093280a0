import Converge.Decimal.Binary64

/-!
# Shortest decimals

The shortest decimal that reads back as a given binary64 magnitude. A decimal reads back when it lies
in the interval of the reals that round to the magnitude; the ends belong to the interval if the
mantissa is even. For 1, 2, … 17 digits the two neighbours of the magnitude on the grid of that many
digits are tried; the first grid with a hit wins, and of two hits the nearer, in a tie the even one.
-/

namespace Converge.Decimal

/-- The decimal `digits * 10 ^ exp`. -/
structure Numeral where
  digits : Nat
  exp : Int
deriving DecidableEq, Repr

def decimalDigits (n : Nat) : List Char := Nat.toDigits 10 n

/-- Multiplies a fraction by a power of ten. -/
def scale (num den : Nat) (k : Int) : Nat × Nat :=
  if 0 ≤ k then (num * Nat.pow 10 k.toNat, den) else (num, den * Nat.pow 10 (-k).toNat)

/-- The exponent of the leading decimal digit of a positive quotient. -/
def leadingExponent (num den : Nat) : Int :=
  if den ≤ num then ((decimalDigits (num / den)).length : Int) - 1
  else -((decimalDigits ((den + num - 1) / num - 1)).length : Int)

/-- The reals that round to a magnitude, as multiples of `2 ^ (exp - 2)`. -/
structure Interval where
  low : Nat
  high : Nat
  closed : Bool

/-- The interval of a magnitude: half a step in each direction, and a quarter of a step downwards
where the steps below are half as wide. -/
def Magnitude.interval (x : Magnitude) : Interval :=
  let narrow := x.mant = Magnitude.leastNormal ∧ Magnitude.minExp < x.exp
  ⟨4 * x.mant - (if narrow then 1 else 2), 4 * x.mant + 2, x.mant % 2 = 0⟩

/-- Is the quotient, taken in the interval's unit, in the interval? -/
def Interval.holds (i : Interval) (num den : Nat) : Bool :=
  if i.closed then decide (i.low * den ≤ num ∧ num ≤ i.high * den)
  else decide (i.low * den < num ∧ num < i.high * den)

/-- The best decimal on the grid `10 ^ g`, if one reads back as the magnitude. -/
def onGrid (x : Magnitude) (g : Int) : Option Numeral :=
  let (num, den) := x.ratio
  let (n, d) := scale num den (-g)
  let c := n / d
  let i := x.interval
  let reads (k : Nat) : Bool :=
    let (a, b) := scale k 1 g
    let (p, q) := Magnitude.shift a b (2 - x.exp)
    i.holds p q
  let below := reads c
  let above := reads (c + 1)
  let r := n % d
  if below && above then
    if 2 * r < d ∨ (2 * r = d ∧ c % 2 = 0) then some ⟨c, g⟩ else some ⟨c + 1, g⟩
  else if below then some ⟨c, g⟩
  else if above then some ⟨c + 1, g⟩
  else none

/-- Moves the zeros at the end of the digits into the exponent; `fuel` bounds their number. -/
def Numeral.strip : Nat → Numeral → Numeral
  | 0, d => d
  | fuel + 1, d =>
    if d.digits % 10 = 0 ∧ d.digits ≠ 0 then strip fuel ⟨d.digits / 10, d.exp + 1⟩ else d

/-- The shortest decimal that reads back as a positive magnitude. -/
def Magnitude.shortest (x : Magnitude) : Numeral :=
  let p := leadingExponent x.ratio.1 x.ratio.2
  let grids := (List.range 17).map fun (k : Nat) => p - (k : Int)
  ((grids.findSome? (onGrid x)).getD ⟨x.mant, x.exp⟩).strip 20

end Converge.Decimal
