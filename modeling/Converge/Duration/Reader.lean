import Converge.Duration.Span
import Converge.Text.CodePoint

/-!
# Reading durations

A duration is written as a whole number of seconds or as a sequence of spans such as `1h 30m`. White
space may stand between spans, between a number and its unit, and between the digits of a number.
**`Duration.seconds`** gives the whole seconds that a text says, if it says whole seconds. The spans are
added up as they are read, so that an overflow counts before anything that is wrong further on.
-/

namespace Converge.Duration

open Text (isWhiteSpace)

def isDigit (c : Char) : Bool := decide ('0' ≤ c ∧ c ≤ '9')

def digitValue (c : Char) : Nat := c.toNat - '0'.toNat

def isUnitLetter (c : Char) : Bool :=
  decide ('a' ≤ c ∧ c ≤ 'z') || decide ('A' ≤ c ∧ c ≤ 'Z') || c = 'µ'

/-- Where a reader of spans is: between spans, in the digits of a number, in those of a fraction, or in
a unit, whose letters so far are kept last first. -/
inductive Place where
  | between
  | number (n : Nat)
  | fraction (n : Nat) (f : Fraction)
  | unit (n : Nat) (f : Option Fraction) (letters : List Char)

/-- The span of a number and the letters of its unit, last first. -/
def span? (n : Nat) (f : Option Fraction) (letters : List Char) : Option Span :=
  (TimeUnit.ofSpelling? (String.ofList letters.reverse)).map fun u => ⟨n, f, u⟩

/-- The spans at the front of a text. -/
structure Reading where
  spans : List Span
  /-- Is there nothing else in the text? -/
  complete : Bool
deriving DecidableEq, Repr

def Reading.cons (s : Span) (r : Reading) : Reading := ⟨s :: r.spans, r.complete⟩

/-- The text ends here, or cannot be read from here on. -/
def Reading.stop (complete : Bool) : Reading := ⟨[], complete⟩

def readSpans : Place → List Char → Reading
  | .between, [] => .stop true
  | .number _, [] => .stop false
  | .fraction _ _, [] => .stop false
  | .unit n f letters, [] =>
    match span? n f letters with
    | some s => Reading.cons s (.stop true)
    | none => .stop false
  | .between, c :: cs =>
    if isDigit c then readSpans (.number (digitValue c)) cs
    else if isWhiteSpace c then readSpans .between cs
    else .stop false
  | .number n, c :: cs =>
    if isDigit c then readSpans (.number (n * 10 + digitValue c)) cs
    else if isWhiteSpace c then readSpans (.number n) cs
    else if isUnitLetter c then readSpans (.unit n none [c]) cs
    else if c = '.' then readSpans (.fraction n ⟨0, 0⟩) cs
    else .stop false
  | .fraction n f, c :: cs =>
    if isDigit c then readSpans (.fraction n ⟨f.numerator * 10 + digitValue c, f.digits + 1⟩) cs
    else if isWhiteSpace c then readSpans (.fraction n f) cs
    else if isUnitLetter c ∧ f.digits ≠ 0 then readSpans (.unit n (some f) [c]) cs
    else .stop false
  | .unit n f letters, c :: cs =>
    if isUnitLetter c then readSpans (.unit n f (c :: letters)) cs
    else if isDigit c ∨ isWhiteSpace c then
      match span? n f letters with
      | some s =>
        Reading.cons s (readSpans (if isDigit c then .number (digitValue c) else .between) cs)
      | none => .stop false
    else .stop false

/-- The number that a run of digits writes, none if it is no such run. -/
def digits? (cs : List Char) : Option Nat :=
  if !cs.isEmpty && cs.all isDigit then some (cs.foldl (fun n c => n * 10 + digitValue c) 0) else none

/-- The whole number that a text of digits, with a sign or without, writes, if 64 bits hold it. -/
def wholeNumber? (cs : List Char) : Option Int := do
  let i ← match cs with
    | '-' :: ds => (digits? ds).map fun n => -(n : Int)
    | '+' :: ds => (digits? ds).map fun n => (n : Int)
    | ds => (digits? ds).map fun n => (n : Int)
  if -9223372036854775808 ≤ i ∧ i < 9223372036854775808 then some i else none

/-- The seconds of a sum of at least one span, if they are whole and 64 bits hold them, signed. -/
def spanSeconds (cs : List Char) : Except Fault Int := do
  let reading := readSpans .between cs
  let t ← Elapsed.ofSpans reading.spans
  if reading.complete ∧ reading.spans ≠ [] ∧ t.nanos = 0 ∧ t.seconds < 9223372036854775808 then
    return (t.seconds : Int)
  else throw .unreadable

/-- `parse_duration`: the whole seconds that a text says, a nonnegative whole number or a sequence of spans. -/
def seconds (text : String) : Except Fault Int64 :=
  let cs := Text.trimBoth isWhiteSpace text.toList
  match wholeNumber? cs with
  | some i => if 0 ≤ i then .ok (Int64.ofInt i) else .error .unreadable
  | none => (spanSeconds cs).map Int64.ofInt

/-- Does the sum of the spans that a text says overflow? -/
def overflows (text : String) : Bool :=
  match seconds text with
  | .error .overflow => true
  | _ => false

end Converge.Duration
