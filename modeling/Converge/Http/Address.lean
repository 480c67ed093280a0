import Converge.Http.Percent
import Converge.Text.Split

/-!
# Addresses

The numeric addresses of hosts: four numbers in any of their spellings, or eight numbers in hexadecimal.
Each address has one form.
-/

namespace Converge.Http

open Text (splitOn)

def isDecimal (c : Char) : Bool := decide ('0' ≤ c ∧ c ≤ '9')

/-- The number that digits of a base write, none if one is no such digit. -/
def number? (base : Nat) (cs : List Char) : Option Nat :=
  cs.foldlM (fun n c => (hexDigit? c).bind fun d => if d < base then some (n * base + d) else none) 0

/-- A number of an address: hexadecimal after `0x`, octal after `0`, else decimal. -/
def addressNumber? (cs : List Char) : Option Nat :=
  match cs with
  | [] => none
  | '0' :: 'x' :: ds => number? 16 ds
  | '0' :: 'X' :: ds => number? 16 ds
  | '0' :: d :: ds => number? 8 (d :: ds)
  | ds => number? 10 ds

/-- The parts of a name at its points; a point at the end does not count. -/
def labels (cs : List Char) : List (List Char) :=
  let parts := splitOn (fun c => c = '.') cs
  if parts.length > 1 ∧ parts.getLast? = some [] then parts.dropLast else parts

/-- Does the name end in a number, so that it has to be an address? -/
def endsInNumber (cs : List Char) : Bool :=
  match (labels cs).getLast? with
  | none => false
  | some last => (!last.isEmpty && last.all isDecimal) ||
    (match last with
     | '0' :: 'x' :: ds => (number? 16 ds).isSome
     | '0' :: 'X' :: ds => (number? 16 ds).isSome
     | _ => false)

/-- The value of an address of up to four numbers, of which the last fills the rest. -/
def fourNumbers? (cs : List Char) : Option Nat := do
  let parts := labels cs
  if parts.length > 4 then none else
  let ns ← parts.mapM addressNumber?
  let last ← ns.getLast?
  let front := ns.dropLast
  if front.any (255 < ·) ∨ Nat.pow 256 (5 - ns.length) ≤ last then none
  else some ((front.foldl (fun a n => a * 256 + n) 0) * Nat.pow 256 (5 - ns.length) + last)

def decimalText (n : Nat) : List Char := Nat.toDigits 10 n

def fourNumbersText (n : Nat) : List Char :=
  decimalText (n / 16777216) ++ '.' :: decimalText (n / 65536 % 256) ++
    '.' :: decimalText (n / 256 % 256) ++ '.' :: decimalText (n % 256)

/-- A group of an address of eight numbers; four decimal numbers at the end count for two groups. -/
def group? (last : Bool) (cs : List Char) : Option (List Nat) :=
  if last && cs.contains '.' then
    let parts := splitOn (fun c => c = '.') cs
    let plain := parts.all fun p => !p.isEmpty && p.all isDecimal && (p.length = 1 || p.head? != some '0')
    if parts.length = 4 && plain then
      (fourNumbers? cs).map fun n => [n / 65536, n % 65536]
    else none
  else if cs.isEmpty ∨ 4 < cs.length then none
  else (number? 16 cs).map fun n => [n]

/-- The groups of a part of an address; no text means no groups. -/
def groups? (last : Bool) (cs : List Char) : Option (List Nat) :=
  if cs.isEmpty then some []
  else
    let parts := splitOn (fun c => c = ':') cs
    let count := parts.length
    (parts.zipIdx.mapM fun (p, i) => group? (last && i + 1 = count) p).map List.flatten

/-- The parts of a text before and after the first double colon. -/
def atDoubleColon : List Char → Option (List Char × List Char)
  | ':' :: ':' :: cs => some ([], cs)
  | c :: cs => (atDoubleColon cs).map fun (a, b) => (c :: a, b)
  | [] => none

def eightNumbers? (cs : List Char) : Option (List Nat) :=
  match atDoubleColon cs with
  | none => (groups? true cs).filter fun gs => gs.length = 8
  | some (a, b) => do
    let front ← groups? false a
    let back ← groups? true b
    if front.length + back.length < 8 then
      some (front ++ List.replicate (8 - front.length - back.length) 0 ++ back)
    else none

def zeros (ns : List Nat) : Nat := (ns.takeWhile (· = 0)).length

/-- Where the longest run of at least two zeros starts, the first of several, and its length. -/
def longestZeros (ns : List Nat) : Option (Nat × Nat) :=
  (List.range ns.length).foldl (fun best i =>
    let n := zeros (ns.drop i)
    let size := (best.map (·.2)).getD 1
    if size < n then some (i, n) else best) none

/-- Numbers in hexadecimal with colons between them. -/
def hexGroups (ns : List Nat) : List Char :=
  [':'].intercalate (ns.map fun n => Nat.toDigits 16 n)

def eightNumbersText (ns : List Nat) : List Char :=
  match longestZeros ns with
  | none => hexGroups ns
  | some (i, n) => hexGroups (ns.take i) ++ [':', ':'] ++ hexGroups (ns.drop (i + n))

end Converge.Http
