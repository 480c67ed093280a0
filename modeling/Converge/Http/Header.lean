/-!
# Headers

The fields at the head of a request. A name is a token of ASCII characters and counts in lower case; a
value holds no control character except the tab, and no U+007F. A list of headers has one value for
each name, in the order in which the names were first set.
-/

namespace Converge.Http

/-- Can the character stand in the name of a header? -/
def isTokenChar (c : Char) : Bool :=
  decide ('a' ≤ c ∧ c ≤ 'z') || decide ('A' ≤ c ∧ c ≤ 'Z') || decide ('0' ≤ c ∧ c ≤ '9')
    || "!#$%&'*+-.^_\x60|~".toList.contains c

/-- The name in lower case, if it is the name of a header. -/
def headerName? (s : String) : Option String :=
  let cs := s.toList
  if !cs.isEmpty && cs.length < 65536 && cs.all isTokenChar then
    some (String.ofList (cs.map Char.toLower))
  else none

def isHeaderValue (s : String) : Bool :=
  s.toList.all fun c => c = '\t' || (decide (' ' ≤ c) && c ≠ '\x7f')

/-- Headers in the order in which they were first set. -/
abbrev Headers := List (String × String)

/-- Sets a header, over the value that it had. -/
def Headers.set (name value : String) : Headers → Headers
  | [] => [(name, value)]
  | (n, v) :: rest => if n = name then (n, value) :: rest else (n, v) :: Headers.set name value rest

end Converge.Http
