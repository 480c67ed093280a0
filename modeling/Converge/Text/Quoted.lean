import Converge.Text.CodePoint
import Converge.Text.EscapeTable

/-!
# Quoted text

The form in which messages show a text: between double quotes, on one line, with every character
that would not be seen as itself written as an escape. Also the forms of a list of texts and of a
list of pairs of texts.
-/

namespace Converge.Text

/-- The digits of a number in base 16, lower case, without leading zeros. -/
def hexDigits (n : Nat) : List Char := Nat.toDigits 16 n

def quoteChar (c : Char) : List Char :=
  if c = '\u0000' then ['\\', '0']
  else if c = '\t' then ['\\', 't']
  else if c = '\r' then ['\\', 'r']
  else if c = '\n' then ['\\', 'n']
  else if c = '"' then ['\\', '"']
  else if c = '\\' then ['\\', '\\']
  else if inRanges escapedRanges c.toNat then
    ['\\', 'u', '\x7b'] ++ hexDigits c.toNat ++ ['\x7d']
  else [c]

def quote (s : String) : String :=
  String.ofList (('"' :: s.toList.flatMap quoteChar) ++ ['"'])

/-- A list of quoted texts: `["a", "b"]`. -/
def quoteList (xs : List String) : String :=
  "[" ++ ", ".intercalate (xs.map quote) ++ "]"

/-- Pairs of quoted texts: `\x7b"a": "b"\x7d`. -/
def quotePairs (es : List (String × String)) : String :=
  "\x7b" ++ ", ".intercalate (es.map fun e => quote e.1 ++ ": " ++ quote e.2) ++ "\x7d"

end Converge.Text
