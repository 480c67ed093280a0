/-!
# Punycode

Labels of a domain name that go beyond ASCII are written in ASCII: the ASCII characters first, then the
others in increasing order, as differences in a base of 36 digits whose thresholds adapt to what was
written before.
-/

namespace Converge.Http.Punycode

/-! ## Encoding -/

def digit (d : Nat) : Char := if d < 26 then Char.ofNat (97 + d) else Char.ofNat (22 + d)

/-- Divides by 35 until the number is small; counts 36 for each division. -/
def shrink : Nat → Nat → Nat → Nat × Nat
  | 0, delta, k => (delta, k)
  | fuel + 1, delta, k => if 455 < delta then shrink fuel (delta / 35) (k + 36) else (delta, k)

/-- The bias after a difference was written, with `count` characters written in all. -/
def adapt (delta count : Nat) (first : Bool) : Nat :=
  let d := if first then delta / 700 else delta / 2
  let (d, k) := shrink 64 (d + d / count) 0
  k + 36 * d / (d + 38)

/-- Where the digits of a number end: the first one below the threshold is the last. -/
def threshold (k bias : Nat) : Nat :=
  if k ≤ bias then 1 else if bias + 26 ≤ k then 26 else k - bias

/-- The digits of a difference. -/
def difference (bias : Nat) : Nat → Nat → Nat → List Char
  | 0, _, _ => []
  | fuel + 1, q, k =>
    let t := threshold k bias
    if q < t then [digit q]
    else digit (t + (q - t) % (36 - t)) :: difference bias fuel ((q - t) / (36 - t)) (k + 36)

/-- What is known between two characters of the label. -/
structure Progress where
  delta : Nat
  bias : Nat
  written : Nat
  output : List Char

/-- Passes over the label for the character number `n`: smaller ones count, equal ones are written. -/
def pass (basic n : Nat) (label : List Char) (p : Progress) : Progress :=
  label.foldl (fun p c =>
    if c.toNat < n then { p with delta := p.delta + 1 }
    else if c.toNat = n then
      { delta := 0, bias := adapt p.delta (p.written + 1) (p.written = basic),
        written := p.written + 1,
        output := p.output ++ difference p.bias 64 p.delta 36 }
    else p) p

/-- Writes the characters from number `n` on; `fuel` is their number. -/
def passes (basic : Nat) (label : List Char) : Nat → Nat → Progress → Progress
  | 0, _, p => p
  | fuel + 1, n, p =>
    match ((label.map Char.toNat).filter (n ≤ ·)).min? with
    | none => p
    | some m =>
      let p := pass basic m label { p with delta := p.delta + (m - n) * (p.written + 1) }
      passes basic label fuel (m + 1) { p with delta := p.delta + 1 }

/-- The ASCII form of a label, without the mark that says so. -/
def encode (label : List Char) : List Char :=
  let basic := label.filter fun c => decide (c.toNat < 128)
  let start := if basic.isEmpty then [] else basic ++ ['-']
  (passes basic.length label label.length 128 ⟨0, 72, basic.length, start⟩).output

/-! ## Decoding -/

def digitValue? (c : Char) : Option Nat :=
  if 'a' ≤ c ∧ c ≤ 'z' then some (c.toNat - 97)
  else if 'A' ≤ c ∧ c ≤ 'Z' then some (c.toNat - 65)
  else if '0' ≤ c ∧ c ≤ '9' then some (c.toNat - 22)
  else none

/-- What is known between two digits. -/
structure Decoding where
  /-- The character number last inserted. -/
  number : Nat
  /-- Where it was inserted, and what the digits since then have added. -/
  index : Nat
  /-- The index before those digits. -/
  start : Nat
  /-- What the next digit counts for. -/
  weight : Nat
  k : Nat
  bias : Nat
  output : List Char
deriving DecidableEq, Repr

namespace Decoding

/-- Inserts the character that a complete index stands for, if there is one. -/
def insert? (d : Decoding) : Option Decoding :=
  let count := d.output.length + 1
  let number := d.number + d.index / count
  let at_ := d.index % count
  if number.isValidChar then
    some ⟨number, at_ + 1, at_ + 1, 1, 36, adapt (d.index - d.start) count (d.start = 0),
      d.output.insertIdx at_ (Char.ofNat number)⟩
  else none

def step? (d : Decoding) (c : Char) : Option Decoding := do
  let v ← digitValue? c
  let t := threshold d.k d.bias
  let d' := { d with index := d.index + v * d.weight }
  if v < t then d'.insert? else some { d' with weight := d.weight * (36 - t), k := d.k + 36 }

/-- Is every character complete? -/
def isDone (d : Decoding) : Bool := d.k = 36

end Decoding

/-- The ASCII characters at the front of an encoded label, and its digits. -/
def splitDigits (cs : List Char) : List Char × List Char :=
  let digits := (cs.reverse.takeWhile fun c => c ≠ '-').reverse
  let front := cs.take (cs.length - digits.length - 1)
  if front.isEmpty then ([], cs) else (front, digits)

/-- The label that an ASCII form stands for, without the mark that says so. -/
def decode? (cs : List Char) : Option (List Char) := do
  let (front, digits) := splitDigits cs
  let d ← digits.foldlM Decoding.step? ⟨128, 0, 0, 1, 36, 72, front⟩
  if d.isDone then some d.output else none

end Converge.Http.Punycode
