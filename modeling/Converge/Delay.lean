import Converge.Json.Number

/-!
# Delays

How long to wait before the next attempt. A delay is a number of nanoseconds of at most `Delay.limit`:
the seconds of a delay fit 64 bits. Multiplication stops at the limit. Nobody waits longer than thirty
years at once.
-/

namespace Converge

structure Delay where
  nanos : Nat
deriving DecidableEq, Repr

namespace Delay

/-- The nanoseconds of a second. -/
def perSecond : Nat := 1000000000

def limit : Nat := 18446744073709551615 * perSecond + (perSecond - 1)

def zero : Delay := ⟨0⟩

def ofMillis (n : Nat) : Delay := ⟨n * 1000000⟩

def ofSeconds (n : Nat) : Delay := ⟨n * perSecond⟩

/-- A multiple of a delay, at most the limit. -/
def times (d : Delay) (n : Nat) : Delay := ⟨min (d.nanos * n) limit⟩

/-- The longest time that is waited at once: thirty years of 365 days. -/
def longestWait : Delay := ofSeconds 946080000

/-- The time that passes when a delay is waited for. -/
def waited (d : Delay) : Delay := ⟨min d.nanos longestWait.nanos⟩

def millis (d : Delay) : Nat := d.nanos / 1000000

instance : Add Delay := ⟨fun a b => ⟨a.nanos + b.nanos⟩⟩

/-- A quotient by a power of ten as a decimal: `digits` digits after the point, less the zeros at the
end. -/
def decimal (whole fraction digits : Nat) : String :=
  let ds := Decimal.decimalDigits fraction
  let padded := List.replicate (digits - ds.length) '0' ++ ds
  let kept := (padded.reverse.dropWhile (fun c => c = '0')).reverse
  let tail := if kept.isEmpty then [] else '.' :: kept
  String.ofList (Decimal.decimalDigits whole ++ tail)

/-- The text of a delay, in the largest unit of which it has at least one. -/
def text (d : Delay) : String :=
  let n := d.nanos
  if perSecond ≤ n then decimal (n / perSecond) (n % perSecond) 9 ++ "s"
  else if 1000000 ≤ n then decimal (n / 1000000) (n % 1000000) 6 ++ "ms"
  else if 1000 ≤ n then decimal (n / 1000) (n % 1000) 3 ++ "µs"
  else decimal n 0 0 ++ "ns"

end Delay

end Converge
