/-!
# Percent-encoding

A character that must not stand in a part of a URL is written as its UTF-8 bytes, each as a percent
sign and two hexadecimal digits, upper case. What is already written so stays as it is.
-/

namespace Converge.Http

def upperHexDigit (n : Nat) : Char := (Nat.digitChar n).toUpper

/-- A byte as a percent sign and two digits. -/
def encodeByte (b : UInt8) : List Char :=
  ['%', upperHexDigit (b.toNat / 16), upperHexDigit (b.toNat % 16)]

def isControlOrBeyond (c : Char) : Bool := c < ' ' || '~' < c

/-- The characters to encode in a fragment. -/
def inFragment (c : Char) : Bool :=
  isControlOrBeyond c || c = ' ' || c = '"' || c = '<' || c = '>' || c = '\x60'

/-- The characters to encode in a path. -/
def inPath (c : Char) : Bool := inFragment c || c = '#' || c = '?' || c = '\x7b' || c = '\x7d'

/-- The characters to encode in the name or password of a user. -/
def inUser (c : Char) : Bool := inPath c || "/:;=@[\\]^|".toList.contains c

/-- The characters to encode in a query. -/
def inQuery (c : Char) : Bool :=
  isControlOrBeyond c || c = ' ' || c = '"' || c = '#' || c = '<' || c = '>'

/-- The characters to encode in the query of a web URL. -/
def inWebQuery (c : Char) : Bool := inQuery c || c = '\''

/-- A character as the bytes that encode it. -/
def encodeChar (c : Char) : List Char := (String.utf8EncodeChar c).flatMap encodeByte

/-- The text with the characters of a class encoded. -/
def encode (p : Char → Bool) (cs : List Char) : List Char :=
  cs.flatMap fun c => if p c then encodeChar c else [c]

def hexDigit? (c : Char) : Option Nat :=
  if '0' ≤ c ∧ c ≤ '9' then some (c.toNat - 48)
  else if 'a' ≤ c ∧ c ≤ 'f' then some (c.toNat - 87)
  else if 'A' ≤ c ∧ c ≤ 'F' then some (c.toNat - 55)
  else none

/-- The bytes of a text with its percent-encoded bytes decoded. -/
def decode : List Char → List UInt8
  | [] => []
  | '%' :: a :: b :: cs =>
    match hexDigit? a, hexDigit? b with
    | some x, some y => UInt8.ofNat (x * 16 + y) :: decode cs
    | _, _ => 37 :: decode (a :: b :: cs)
  | c :: cs => String.utf8EncodeChar c ++ decode cs

end Converge.Http
