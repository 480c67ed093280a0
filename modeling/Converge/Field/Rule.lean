import Converge.Duration.Reader
import Converge.Field.Value
import Converge.Text.LowerCase

/-!
# Normalizers and validators

A normalizer maps every accepted spelling of a value onto one form, so that values from different
sources can be compared; a value it does not know stays as it is. On a few values the computation of
the form overflows; whoever needs the form of such a value has to stop. A validator says what is wrong
with a value, if anything is.
-/

namespace Converge

/-- Maps the spellings of a value onto one form. -/
structure Normalizer where
  form : FieldValue → FieldValue
  /-- The values on the way to whose form a computation overflows, so that none is reached. -/
  overflows : FieldValue → Bool := fun _ => false

/-- What is wrong with a value, if anything is. -/
abbrev Validator := FieldValue → Option String

namespace Normalizer

instance : CoeFun Normalizer fun _ => FieldValue → FieldValue := ⟨form⟩

/-- `duration_seconds`: turns a text that says whole seconds into their number. -/
def durationSeconds : Normalizer where
  form
    | .string s =>
      match Duration.seconds s with
      | .ok n => .int n
      | .error _ => .string s
    | v => v
  overflows
    | .string s => Duration.overflows s
    | _ => false

/-- `case_fold`: turns a string to lower case. -/
def caseFold : Normalizer where
  form
    | .string s => .string (Text.lowerCase s)
    | v => v

def withoutSlashes (s : String) : String :=
  String.ofList (Text.trimBoth (fun c => c = '/') s.toList)

/-- `trim_slashes`: removes the slashes at both ends of a string. -/
def trimSlashes : Normalizer where
  form
    | .string s => .string (withoutSlashes s)
    | v => v

/-- Inserts a string into an increasing list that does not hold it; one that it holds stays. -/
def insertSorted (x : String) : List String → List String
  | [] => [x]
  | y :: r => if x < y then x :: y :: r else if x = y then y :: r else y :: insertSorted x r

/-- The strings of a list, each once, in increasing order. -/
def sortedSet (xs : List String) : List String := xs.foldr insertSorted []

/-- `unordered`: treats a list of strings as a set. -/
def unordered : Normalizer where
  form
    | .list xs => .list (sortedSet xs)
    | v => v

end Normalizer

namespace Validator

/-- `non_empty`. -/
def nonEmpty : Validator
  | .string s => if s.isEmpty then some "must not be empty" else none
  | _ => none

/-- `non_negative`. -/
def nonNegative : Validator
  | .int i =>
    if i.toInt < 0 then some ("must be zero or greater, got: " ++ Number.intText i.toInt) else none
  | _ => none

def atLeast (low : Int) : Validator
  | .int i =>
    if i.toInt < low then
      some ("must be equal to or greater than " ++ Number.intText low ++ ", got: "
        ++ Number.intText i.toInt)
    else none
  | _ => none

/-- Refuses a number outside a range, both ends of which belong to it. -/
def between (low high : Int) : Validator
  | .int i =>
    if i.toInt < low ∨ high < i.toInt then
      some ("must be between " ++ Number.intText low ++ " and " ++ Number.intText high ++ ", got: "
        ++ Number.intText i.toInt)
    else none
  | _ => none

end Validator

end Converge
