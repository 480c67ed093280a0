/-!
# Time spans

A span of time is a decimal number of some unit. A sum of spans is kept as seconds and nanoseconds in
64-bit words: every step of the arithmetic is checked, and a number that does not fit makes the text
unreadable, with one exception: nanoseconds that come to exactly one second may find the seconds full,
and that is an overflow. A fraction counts only if it comes out as a whole number of nanoseconds, or of
seconds for the units from the hour upwards.
-/

namespace Converge.Duration

inductive TimeUnit where
  | nanosecond
  | microsecond
  | millisecond
  | second
  | minute
  | hour
  | day
  | week
  | month
  | year
deriving DecidableEq, Repr

def TimeUnit.spellings : TimeUnit → List String
  | .nanosecond => ["nanos", "nsec", "ns"]
  | .microsecond => ["usec", "us", "µs"]
  | .millisecond => ["millis", "msec", "ms"]
  | .second => ["seconds", "second", "secs", "sec", "s"]
  | .minute => ["minutes", "minute", "min", "mins", "m"]
  | .hour => ["hours", "hour", "hrs", "hr", "h"]
  | .day => ["days", "day", "d"]
  | .week => ["weeks", "week", "wks", "wk", "w"]
  | .month => ["months", "month", "M"]
  | .year => ["years", "year", "yrs", "yr", "y"]

/-- Every unit, the shortest first. -/
def TimeUnit.all : List TimeUnit :=
  [.nanosecond, .microsecond, .millisecond, .second, .minute, .hour, .day, .week, .month, .year]

def TimeUnit.ofSpelling? (s : String) : Option TimeUnit :=
  TimeUnit.all.find? fun u => u.spellings.contains s

/-- What a unit is worth: a number of nanoseconds below the second, a number of seconds from it on. -/
inductive Worth where
  | nanos (n : Nat)
  | seconds (n : Nat)

/-- The worth of one unit; a month is a twelfth of a year of 365.25 days. -/
def TimeUnit.worth : TimeUnit → Worth
  | .nanosecond => .nanos 1
  | .microsecond => .nanos 1000
  | .millisecond => .nanos 1000000
  | .second => .seconds 1
  | .minute => .seconds 60
  | .hour => .seconds 3600
  | .day => .seconds 86400
  | .week => .seconds 604800
  | .month => .seconds 2630016
  | .year => .seconds 31557600

/-- What a unit is divided into by a fraction; a nanosecond cannot be divided. -/
def TimeUnit.fractionWorth : TimeUnit → Option Worth
  | .nanosecond => none
  | .microsecond => some (.nanos 1000)
  | .millisecond => some (.nanos 1000000)
  | .second => some (.nanos 1000000000)
  | .minute => some (.nanos 60000000000)
  | u => some u.worth

/-- The digits after a point: the number they write and how many there are. -/
structure Fraction where
  numerator : Nat
  digits : Nat
deriving DecidableEq, Repr

def Fraction.denominator (f : Fraction) : Nat := Nat.pow 10 f.digits

structure Span where
  count : Nat
  fraction : Option Fraction
  unit : TimeUnit
deriving DecidableEq, Repr

/-- Why spans do not sum up. -/
inductive Fault where
  /-- A number does not fit its word, or a fraction does not come out whole. -/
  | unreadable
  /-- The nanoseconds have filled up a second that the seconds cannot take any more. -/
  | overflow
deriving DecidableEq, Repr

/-- The number if it fits a 64-bit word. -/
def word (n : Nat) : Except Fault Nat :=
  if n < 18446744073709551616 then .ok n else .error .unreadable

/-- A sum of spans in seconds and nanoseconds. -/
structure Elapsed where
  seconds : Nat
  nanos : Nat
deriving DecidableEq, Repr

namespace Elapsed

def zero : Elapsed := ⟨0, 0⟩

def nanosPerSecond : Nat := 1000000000

/-- One second more, which is what nanoseconds that are exactly full come to. -/
def tick (seconds : Nat) : Except Fault Elapsed :=
  if seconds + 1 < 18446744073709551616 then .ok ⟨seconds + 1, 0⟩ else .error .overflow

/-- Adds seconds and nanoseconds, which carry over into the seconds. -/
def add (t : Elapsed) (seconds nanos : Nat) : Except Fault Elapsed := do
  let n ← word (t.nanos + nanos)
  if n = nanosPerSecond then tick (← word (t.seconds + seconds))
  else return ⟨← word (t.seconds + seconds + n / nanosPerSecond), n % nanosPerSecond⟩

def addWorth (t : Elapsed) (n : Nat) : Worth → Except Fault Elapsed
  | .nanos k => (word (n * k)).bind fun x => t.add 0 x
  | .seconds k => (word (n * k)).bind fun x => t.add x 0

/-- The part of the worth that a fraction is, which has to be a whole number. -/
def part (f : Fraction) (k : Nat) : Except Fault Nat := do
  let d ← word f.denominator
  let n ← word (f.numerator * k)
  if n % d = 0 then return n / d else throw .unreadable

def addFraction (t : Elapsed) (f : Fraction) (u : TimeUnit) : Except Fault Elapsed :=
  match u.fractionWorth with
  | none => .error .unreadable
  | some (.nanos k) => (part f k).bind fun x => t.add 0 x
  | some (.seconds k) => (part f k).bind fun x => t.add x 0

/-- Adds a span. Its number has to be one that can be kept before any of it is added. -/
def addSpan (t : Elapsed) (s : Span) : Except Fault Elapsed := do
  let n ← word s.count
  match s.fraction with
  | none => t.addWorth n s.unit.worth
  | some f =>
    discard (word f.denominator)
    (← t.addWorth n s.unit.worth).addFraction f s.unit

/-- The sum of a list of spans; the first fault counts. -/
def ofSpans (spans : List Span) : Except Fault Elapsed := spans.foldlM addSpan zero

end Elapsed

end Converge.Duration
