import Converge.Json.Basic
import Converge.Json.Fault

/-!
# Reading JSON

A strict reader: white space is space, tab, line feed and carriage return only; there are no comments,
no trailing commas and no leading zeros. A reader takes a value off the front of a text and gives the
rest, or the first problem in the order of the text.

Readers for particular shapes are put together from `readList`, `readObject` and the scalar readers.
`bound` is a length that no text in hand exceeds; the loops over items and members count it down, and
since each round takes at least one character they never reach its end.

* `parse` reads a whole text as one value nested less than `depthLimit` deep.
* `skipValue` passes over a value of any depth, and does not look at what its numbers and escapes mean.
-/

namespace Converge.Json

/-- Takes a value off the front of a text. -/
abbrev Reader (α : Type) := List Char → Except Problem (α × List Char)

def fault {α : Type} (f : Fault) : Except Problem α := .error (.malformed f)

def mismatch {α : Type} (m : Mismatch) : Except Problem α := .error (.mismatch m)

/-! ## Characters -/

/-- Is the character white space between tokens? -/
def isBlank (c : Char) : Bool := c = ' ' || c = '\t' || c = '\n' || c = '\r'

def skipBlank (cs : List Char) : List Char := cs.dropWhile isBlank

def isDigit (c : Char) : Bool := decide ('0' ≤ c ∧ c ≤ '9')

def digitValue (c : Char) : Nat := c.toNat - '0'.toNat

/-- Reads the rest of a word such as `null`. -/
def readWord : List Char → Reader Unit
  | [], cs => .ok ((), cs)
  | _ :: _, [] => fault .endInValue
  | w :: ws, c :: cs => if c = w then readWord ws cs else fault .expectedWord

/-! ## Strings -/

def hexValue (c : Char) : Option Nat :=
  if '0' ≤ c ∧ c ≤ '9' then some (c.toNat - 48)
  else if 'a' ≤ c ∧ c ≤ 'f' then some (c.toNat - 87)
  else if 'A' ≤ c ∧ c ≤ 'F' then some (c.toNat - 55)
  else none

/-- The number that four hexadecimal digits write. -/
def hexNumber (a b c d : Char) : Option Nat :=
  match hexValue a, hexValue b, hexValue c, hexValue d with
  | some w, some x, some y, some z => some (((w * 16 + x) * 16 + y) * 16 + z)
  | _, _, _, _ => none

/-- Are there four bytes left? An escape cut off before them is cut off by the end of the text. -/
def hasFourBytes (cs : List Char) : Bool :=
  decide (4 ≤ (cs.take 4).foldl (fun n c => n + c.utf8Size) 0)

/-- What a one-letter escape stands for. -/
def simpleEscape : Char → Option Char
  | '"' => some '"'
  | '\\' => some '\\'
  | '/' => some '/'
  | 'b' => some '\x08'
  | 'f' => some '\x0c'
  | 'n' => some '\n'
  | 'r' => some '\r'
  | 't' => some '\t'
  | _ => none

def isHighSurrogate (n : Nat) : Bool := decide (0xD800 ≤ n ∧ n ≤ 0xDBFF)

def isLowSurrogate (n : Nat) : Bool := decide (0xDC00 ≤ n ∧ n ≤ 0xDFFF)

/-- The character that a surrogate pair writes. -/
def pairChar (high low : Nat) : Char :=
  Char.ofNat ((high - 0xD800) * 0x400 + (low - 0xDC00) + 0x10000)

/-- Puts a character in front of what was read. -/
def push (c : Char) (r : Except Problem (List Char × List Char)) :
    Except Problem (List Char × List Char) :=
  r.map fun (s, rest) => (c :: s, rest)

/-- Reads the rest of a string after its opening quote. -/
def readString : Reader (List Char)
  | [] => fault .endInString
  | c :: cs =>
    if c = '"' then .ok ([], cs)
    else if c = '\\' then
      match cs with
      | [] => fault .endInString
      | 'u' :: cs =>
        if !hasFourBytes cs then fault .endInString else
        match cs with
        | h₁ :: h₂ :: h₃ :: h₄ :: cs =>
          match hexNumber h₁ h₂ h₃ h₄ with
          | none => fault .invalidEscape
          | some n =>
            if isLowSurrogate n then fault .loneSurrogate
            else if isHighSurrogate n then
              match cs with
              | [] => fault .endInString
              | '\\' :: [] => fault .endInString
              | '\\' :: 'u' :: cs =>
                if !hasFourBytes cs then fault .endInString else
                match cs with
                | l₁ :: l₂ :: l₃ :: l₄ :: cs =>
                  match hexNumber l₁ l₂ l₃ l₄ with
                  | none => fault .invalidEscape
                  | some m =>
                    if isLowSurrogate m then push (pairChar n m) (readString cs)
                    else fault .loneSurrogate
                | _ => fault .invalidEscape
              | _ => fault .unfinishedSurrogatePair
            else push (Char.ofNat n) (readString cs)
        | _ => fault .invalidEscape
      | e :: cs =>
        match simpleEscape e with
        | some d => push d (readString cs)
        | none => fault .invalidEscape
    else if c < ' ' then fault .controlCharacter
    else push c (readString cs)

/-- Passes over the rest of a string after its opening quote. -/
def skipString : Reader Unit
  | [] => fault .endInString
  | c :: cs =>
    if c = '"' then .ok ((), cs)
    else if c = '\\' then
      match cs with
      | [] => fault .endInString
      | 'u' :: cs =>
        if !hasFourBytes cs then fault .endInString else
        match cs with
        | h₁ :: h₂ :: h₃ :: h₄ :: cs =>
          if (hexNumber h₁ h₂ h₃ h₄).isSome then skipString cs else fault .invalidEscape
        | _ => fault .invalidEscape
      | e :: cs => if (simpleEscape e).isSome then skipString cs else fault .invalidEscape
    else if c < ' ' then fault .controlCharacter
    else skipString cs

/-! ## Numbers -/

def takeDigits (cs : List Char) : List Nat × List Char :=
  ((cs.takeWhile isDigit).map digitValue, cs.dropWhile isDigit)

/-- Reads the digits before the point: a single zero, or digits that start with another one. `ended` is
the fault of a text that ends before them. -/
def readWhole (ended : Fault) : Reader (List Nat)
  | [] => fault ended
  | '0' :: cs =>
    match cs with
    | [] => .ok ([0], [])
    | c :: _ => if isDigit c then fault .invalidNumber else .ok ([0], cs)
  | c :: cs => if isDigit c then .ok (takeDigits (c :: cs)) else fault .invalidNumber

/-- Reads the point and the digits after it, if there is a point. -/
def readFraction (ended : Fault) : Reader (Option (List Nat))
  | '.' :: cs =>
    let (ds, rest) := takeDigits cs
    if !ds.isEmpty then .ok (some ds, rest)
    else if rest.isEmpty then fault ended
    else fault .invalidNumber
  | cs => .ok (none, cs)

def readExponentSign : List Char → Bool × List Char
  | '+' :: cs => (false, cs)
  | '-' :: cs => (true, cs)
  | cs => (false, cs)

/-- Reads an exponent, if there is one: is it negative, and its digits. -/
def readExponent (ended : Fault) : Reader (Option (Bool × List Nat))
  | [] => .ok (none, [])
  | c :: cs =>
    if c = 'e' ∨ c = 'E' then
      let (down, rest) := readExponentSign cs
      let (ds, rest) := takeDigits rest
      if !ds.isEmpty then .ok (some (down, ds), rest)
      else if rest.isEmpty then fault ended
      else fault .invalidNumber
    else .ok (none, c :: cs)

def readLiteral (ended : Fault) (cs : List Char) : Except Problem (Number.Literal × List Char) := do
  let (negative, cs) := match cs with
    | '-' :: cs => (true, cs)
    | cs => (false, cs)
  let (whole, cs) ← readWhole ended cs
  let (fraction, cs) ← readFraction ended cs
  let (exponent, cs) ← readExponent ended cs
  return (⟨negative, whole, fraction, exponent⟩, cs)

def readNumber (cs : List Char) : Except Problem (Number × List Char) := do
  let (l, rest) ← readLiteral .endInValue cs
  match Number.ofLiteral l with
  | some n => return (n, rest)
  | none => fault .numberOutOfRange

/-! ## Lists and objects -/

/-- Reads the items of a list after its opening bracket, and the closing bracket. -/
def readList {α : Type} (item : Reader α) : Nat → Bool → Reader (List α)
  | 0, _, _ => fault .endInList
  | bound + 1, first, cs =>
    let next (cs : List Char) : Except Problem (List α × List Char) := do
      let (v, rest) ← item cs
      let (vs, rest) ← readList item bound false rest
      return (v :: vs, rest)
    match skipBlank cs with
    | [] => fault .endInList
    | c :: rest =>
      if c = ']' then .ok ([], rest)
      else if first then next (c :: rest)
      else if c = ',' then
        match skipBlank rest with
        | [] => fault .endInValue
        | d :: rest => if d = ']' then fault .trailingComma else next (d :: rest)
      else fault .expectedListCommaOrEnd

/-- Reads the members of an object after its opening brace, and the closing brace. `member` reads what
follows a name, the colon included, and adds it to what the members before it gave. -/
def readObject {σ : Type} (member : σ → List Char → Reader σ) : Nat → Bool → σ → Reader σ
  | 0, _, _, _ => fault .endInObject
  | bound + 1, first, acc, cs =>
    let next (c : Char) (cs : List Char) : Except Problem (σ × List Char) :=
      if c = '"' then do
        let (name, rest) ← readString cs
        let (acc, rest) ← member acc name rest
        readObject member bound false acc rest
      else fault .keyNotString
    match skipBlank cs with
    | [] => fault .endInObject
    | c :: rest =>
      if c = '\x7d' then .ok (acc, rest)
      else if first then next c rest
      else if c = ',' then
        match skipBlank rest with
        | [] => fault .endInValue
        | d :: rest => if d = '\x7d' then fault .trailingComma else next d rest
      else fault .expectedObjectCommaOrEnd

def readColon (cs : List Char) : Except Problem (Unit × List Char) :=
  match skipBlank cs with
  | [] => fault .endInObject
  | c :: rest => if c = ':' then .ok ((), rest) else fault .expectedColon

/-! ## Values -/

/-- The number of brackets that may not be open at once. -/
def depthLimit : Nat := 128

/-- Reads a value. `depth` is one more than the number of brackets that may still be opened. -/
def readValue (bound : Nat) : Nat → Reader Json
  | 0, _ => fault .tooDeep
  | depth + 1, cs =>
    match skipBlank cs with
    | [] => fault .endInValue
    | c :: rest =>
      if c = 'n' then (readWord "ull".toList rest).map fun (_, r) => (.null, r)
      else if c = 't' then (readWord "rue".toList rest).map fun (_, r) => (.bool true, r)
      else if c = 'f' then (readWord "alse".toList rest).map fun (_, r) => (.bool false, r)
      else if c = '"' then (readString rest).map fun (s, r) => (.string (String.ofList s), r)
      else if c = '-' ∨ isDigit c then
        (readNumber (c :: rest)).map fun (n, r) => (.number n, r)
      else if c = '[' then
        if depth = 0 then fault .tooDeep
        else (readList (readValue bound depth) bound true rest).map fun (vs, r) => (.array vs, r)
      else if c = '\x7b' then
        if depth = 0 then fault .tooDeep
        else
          let member (acc : List (String × Json)) (name : List Char) : Reader (List (String × Json)) :=
            fun cs => do
              let (_, cs) ← readColon cs
              let (v, cs) ← readValue bound depth cs
              return ((String.ofList name, v) :: acc, cs)
          (readObject member bound true [] rest).map fun (ms, r) => (.object ms.reverse, r)
      else fault .expectedValue

/-- Passes over a value. `depth` is a number of brackets that the text cannot open. -/
def skipValue (bound : Nat) : Nat → Reader Unit
  | 0, _ => fault .tooDeep
  | depth + 1, cs =>
    match skipBlank cs with
    | [] => fault .endInValue
    | c :: rest =>
      if c = 'n' then readWord "ull".toList rest
      else if c = 't' then readWord "rue".toList rest
      else if c = 'f' then readWord "alse".toList rest
      else if c = '"' then skipString rest
      else if c = '-' ∨ isDigit c then
        (readLiteral .invalidNumber (c :: rest)).map fun (_, r) => ((), r)
      else if c = '[' then skipItems (skipValue bound depth) bound true rest
      else if c = '\x7b' then skipMembers (skipValue bound depth) bound true rest
      else fault .expectedValue
where
  /-- Passes over the items of a list after its opening bracket. -/
  skipItems (item : Reader Unit) : Nat → Bool → Reader Unit
    | 0, _, _ => fault .endInList
    | bound + 1, first, cs =>
      let next (cs : List Char) : Except Problem (Unit × List Char) := do
        let (_, rest) ← item cs
        skipItems item bound false rest
      match skipBlank cs with
      | [] => fault .endInList
      | c :: rest =>
        if c = ']' then .ok ((), rest)
        else if first then next (c :: rest)
        else if c = ',' then next rest
        else fault .expectedListCommaOrEnd
  /-- Passes over the members of an object after its opening brace. -/
  skipMembers (value : Reader Unit) : Nat → Bool → Reader Unit
    | 0, _, _ => fault .endInObject
    | bound + 1, first, cs =>
      let next (cs : List Char) : Except Problem (Unit × List Char) := do
        match skipBlank cs with
        | [] => fault .endInObject
        | c :: rest =>
          if c = '"' then
            let (_, rest) ← skipString rest
            let (_, rest) ← readColon rest
            let (_, rest) ← value rest
            skipMembers value bound false rest
          else fault .keyNotString
      match skipBlank cs with
      | [] => fault .endInObject
      | c :: rest =>
        if c = '\x7d' then .ok ((), rest)
        else if first then next (c :: rest)
        else if c = ',' then next rest
        else fault .expectedObjectCommaOrEnd

/-- Reads a whole text with a reader: nothing but white space may follow the value. The reader is given
a length that no part of the text exceeds. -/
def readWhollyWith {α : Type} (read : Nat → Reader α) (text : String) : Except Problem α := do
  let cs := text.toList
  let (v, rest) ← read (cs.length + 1) cs
  match skipBlank rest with
  | [] => return v
  | _ => fault .trailingCharacters

/-- Reads a text as one value, its objects as they stand. -/
def parseAsWritten (text : String) : Except Problem Json :=
  readWhollyWith (fun bound => readValue bound depthLimit) text

/-- Reads a text as one canonical value. -/
def parse (text : String) : Except Problem Json := (parseAsWritten text).map canonical

end Converge.Json
