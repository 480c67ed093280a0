import Converge.Json.Number
import Converge.Text.Quoted

/-!
# What can be wrong with a JSON text

A `Fault` is a place where a text is not JSON. A `Mismatch` is a well-formed value that is not of the
shape a reader asks for. A reader stops at the first `Problem` in the order of the text.
-/

namespace Converge.Json

/-- A way in which a text is not JSON. -/
inductive Fault where
  | endInList
  | endInObject
  | endInString
  | endInValue
  | expectedColon
  | expectedListCommaOrEnd
  | expectedObjectCommaOrEnd
  | expectedWord
  | expectedValue
  | invalidEscape
  | invalidNumber
  | numberOutOfRange
  | controlCharacter
  | keyNotString
  | loneSurrogate
  | unfinishedSurrogatePair
  | trailingComma
  | trailingCharacters
  | tooDeep
deriving DecidableEq, Repr

/-- Does the fault say that the text ends too early? -/
def Fault.isEnd : Fault → Bool
  | .endInList | .endInObject | .endInString | .endInValue => true
  | _ => false

def Fault.message : Fault → String
  | .endInList => "EOF while parsing a list"
  | .endInObject => "EOF while parsing an object"
  | .endInString => "EOF while parsing a string"
  | .endInValue => "EOF while parsing a value"
  | .expectedColon => "expected \x60:\x60"
  | .expectedListCommaOrEnd => "expected \x60,\x60 or \x60]\x60"
  | .expectedObjectCommaOrEnd => "expected \x60,\x60 or \x60\x7d\x60"
  | .expectedWord => "expected ident"
  | .expectedValue => "expected value"
  | .invalidEscape => "invalid escape"
  | .invalidNumber => "invalid number"
  | .numberOutOfRange => "number out of range"
  | .controlCharacter => "control character (\\u0000-\\u001F) found while parsing a string"
  | .keyNotString => "key must be a string"
  | .loneSurrogate => "lone leading surrogate in hex escape"
  | .unfinishedSurrogatePair => "unexpected end of hex escape"
  | .trailingComma => "trailing comma"
  | .trailingCharacters => "trailing characters"
  | .tooDeep => "recursion limit exceeded"

/-- What a reader found where it asked for something else. -/
inductive Found where
  | null
  | bool (b : Bool)
  | number (n : Number)
  | string (s : String)
  | array
  | object
deriving DecidableEq, Repr

def backQuoted (s : String) : String := "\x60" ++ s ++ "\x60"

def Found.message : Found → String
  | .null => "null"
  | .bool b => "boolean " ++ backQuoted (if b then "true" else "false")
  | .number (.int i) => "integer " ++ backQuoted (Number.intText i)
  | .number (.float negative x) => "floating point " ++ backQuoted (Number.floatText negative x)
  | .string s => "string " ++ Text.quote s
  | .array => "sequence"
  | .object => "map"

/-- A well-formed value of the wrong shape. -/
inductive Mismatch where
  | invalidType (found : Found) (expected : String)
  | invalidLength (length : Nat) (expected : String)
  | missingField (name : String)
  | unknownField (name : String) (expected : String)
  | duplicateField (name : String)
  | noVariant (type : String)
deriving DecidableEq, Repr

def Mismatch.message : Mismatch → String
  | .invalidType found expected =>
    "invalid type: " ++ found.message ++ ", expected " ++ expected
  | .invalidLength n expected =>
    "invalid length " ++ Number.intText n ++ ", expected " ++ expected
  | .missingField name => "missing field " ++ backQuoted name
  | .unknownField name expected =>
    "unknown field " ++ backQuoted name ++ ", expected " ++ backQuoted expected
  | .duplicateField name => "duplicate field " ++ backQuoted name
  | .noVariant type => "data did not match any variant of untagged enum " ++ type

/-- Why a text cannot be read. -/
inductive Problem where
  | malformed (fault : Fault)
  | mismatch (mismatch : Mismatch)
deriving DecidableEq, Repr

def Problem.message : Problem → String
  | .malformed f => f.message
  | .mismatch m => m.message

end Converge.Json
