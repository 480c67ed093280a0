import Converge.Json.Basic
import Converge.Text.Quoted

/-!
# Printing JSON

The compact form of a value: no white space, members in the order they stand in, and in strings an
escape only for the quote, the backslash and the control characters below U+0020.
-/

namespace Converge.Json

def hexDigit (n : Nat) : Char := Nat.digitChar n

/-- A character as it stands in a string. -/
def escapeChar (c : Char) : List Char :=
  if c = '"' then ['\\', '"']
  else if c = '\\' then ['\\', '\\']
  else if c = '\x08' then ['\\', 'b']
  else if c = '\x0c' then ['\\', 'f']
  else if c = '\n' then ['\\', 'n']
  else if c = '\r' then ['\\', 'r']
  else if c = '\t' then ['\\', 't']
  else if c < ' ' then ['\\', 'u', '0', '0', hexDigit (c.toNat / 16), hexDigit (c.toNat % 16)]
  else [c]

def renderString (s : String) : List Char := ('"' :: s.toList.flatMap escapeChar) ++ ['"']

mutual

def renderChars : Json → List Char
  | .null => "null".toList
  | .bool true => "true".toList
  | .bool false => "false".toList
  | .number n => n.text.toList
  | .string s => renderString s
  | .array [] => ['[', ']']
  | .array (v :: vs) => '[' :: (renderChars v ++ renderItems vs)
  | .object [] => ['\x7b', '\x7d']
  | .object ((k, v) :: ms) =>
    '\x7b' :: (renderString k ++ ':' :: (renderChars v ++ renderMembers ms))

/-- The items after the first one, each after a comma, and the closing bracket. -/
def renderItems : List Json → List Char
  | [] => [']']
  | v :: vs => ',' :: (renderChars v ++ renderItems vs)

/-- The members after the first one, each after a comma, and the closing brace. -/
def renderMembers : List (String × Json) → List Char
  | [] => ['\x7d']
  | (k, v) :: ms => ',' :: (renderString k ++ ':' :: (renderChars v ++ renderMembers ms))

end

/-- The compact form of a value. -/
def render (v : Json) : String := String.ofList (renderChars v)

end Converge.Json
