import Converge.Decimal.Shortest

/-!
# JSON numbers

A number is a whole number when it is written as one and fits 64 bits, signed or unsigned; every other
number is a binary64 float, `-0` included. A literal is read by taking its digits into a 64-bit
significand for as long as they fit, and scaling that by the power of ten that remains: the
significand is rounded to a float first, then multiplied or divided by the power.
-/

namespace Converge

inductive Number where
  | int (i : Int)
  | float (negative : Bool) (x : Decimal.Magnitude)
deriving DecidableEq, Repr

namespace Number

open Decimal

/-! ## Reading -/

/-- A number as it is written: its sign, the digits before and after the point, and the exponent. The
two last are none if they are not written. -/
structure Literal where
  negative : Bool
  whole : List Nat
  fraction : Option (List Nat)
  exponent : Option (Bool × List Nat)

/-- The number after the last one that 64 bits hold. -/
def wordBound : Nat := 18446744073709551616

/-- Takes digits for as long as the significand fits 64 bits; also gives the digits left over. -/
def takeDigits (sig : Nat) : List Nat → Nat × List Nat
  | [] => (sig, [])
  | d :: ds => if sig * 10 + d < wordBound then takeDigits (sig * 10 + d) ds else (sig, d :: ds)

/-- The power of ten that scales a significand, as a float; only powers up to 308 are asked for. -/
def powerOfTen (k : Nat) : Magnitude := (Magnitude.ofNat (Nat.pow 10 k)).getD Magnitude.zero

/-- Multiplies a float by a power of ten, none if the result is out of range. Large negative powers go
in steps of 308; `fuel` bounds their number, and the result is zero well before it runs out. -/
def scaleBy : Nat → Magnitude → Int → Option Magnitude
  | 0, f, _ => some f
  | fuel + 1, f, k =>
    if k.natAbs ≤ 308 then
      if 0 ≤ k then f.mul (powerOfTen k.natAbs) else f.div (powerOfTen k.natAbs)
    else if f.mant = 0 then some f
    else if 0 ≤ k then none
    else match f.div (powerOfTen 308) with
      | some g => scaleBy fuel g (k + 308)
      | none => none

/-- The written exponent; none if it does not fit 32 bits, signed. -/
def exponentValue (ds : List Nat) : Option Nat :=
  let n := ds.foldl (fun a d => a * 10 + d) 0
  if n < 2147483648 then some n else none

/-- The value of a literal; none if it is too large for a float. -/
def ofLiteral (l : Literal) : Option Number :=
  let (sig, dropped) := takeDigits 0 l.whole
  let float (sig : Nat) (k : Int) : Option Number :=
    ((Magnitude.ofNat sig).bind fun f => scaleBy 4 f k).map (.float l.negative)
  match l.fraction, l.exponent with
  | none, none =>
    if dropped.isEmpty then
      if !l.negative then some (.int sig)
      else if sig = 0 ∨ 9223372036854775808 < sig then float sig 0
      else some (.int (-(sig : Int)))
    else float sig dropped.length
  | fraction, exponent =>
    let ds := fraction.getD []
    let (sig, rest) := takeDigits sig ds
    let start : Int := dropped.length - (ds.length - rest.length : Nat)
    match exponent with
    | none => float sig start
    | some (down, es) =>
      match exponentValue es with
      | some e => float sig (if down then start - e else start + e)
      | none => if sig ≠ 0 ∧ !down then none else some (.float l.negative Magnitude.zero)

/-! ## Text -/

/-- The digits of a decimal with the point after the first `k` of them; at least one digit stands on
each side of it. -/
def positional (ds : List Char) (k : Int) : List Char :=
  if k ≤ 0 then ['0', '.'] ++ List.replicate (-k).toNat '0' ++ ds
  else
    let n := k.toNat
    if ds.length ≤ n then ds ++ List.replicate (n - ds.length) '0' ++ ['.', '0']
    else ds.take n ++ ['.'] ++ ds.drop n

/-- The digits of a decimal in exponent form, the point after the first digit. -/
def scientific (ds : List Char) (e : Int) : List Char :=
  let sign := if e < 0 then ['-'] else ['+']
  let tail := ['e'] ++ sign ++ decimalDigits e.natAbs
  match ds with
  | [] => tail
  | [d] => d :: tail
  | d :: rest => d :: '.' :: rest ++ tail

/-- The text of a float: the shortest decimal that reads back, with a point in it from 1e-5 up to
1e16, and in exponent form outside that range. -/
def floatText (negative : Bool) (x : Magnitude) : String :=
  let sign := if negative then ['-'] else []
  if x.mant = 0 then String.ofList (sign ++ ['0', '.', '0'])
  else
    let d := x.shortest
    let ds := decimalDigits d.digits
    let e : Int := ds.length + d.exp - 1
    String.ofList (sign ++ if -5 ≤ e ∧ e < 16 then positional ds (e + 1) else scientific ds e)

def intText (i : Int) : String :=
  if i < 0 then String.ofList ('-' :: decimalDigits i.natAbs)
  else String.ofList (decimalDigits i.natAbs)

def text : Number → String
  | .int i => intText i
  | .float negative x => floatText negative x

def toInt? : Number → Option Int
  | .int i => some i
  | .float _ _ => none

end Number

end Converge
