import Converge.Http.Url.Path

/-!
# Reading URLs

Reading a URL the way web software does. Tabs and line breaks do not count, nor do spaces and control
characters at the ends. In a web URL a backslash is a slash, and what must not stand in a part of the
URL is percent-encoded. The path ends at the first `?` or `#`; what follows `#` belongs to the URL but
not to a request.

**`Url.parse?`** reads a URL.
-/

namespace Converge.Http.Url

open Text (breakAt splitOn)

/-! ## Parts -/

/-- The text without the spaces and control characters at its ends. -/
def trimmed (cs : List Char) : List Char :=
  let edge (c : Char) : Bool := c ≤ ' '
  (((cs.dropWhile edge).reverse).dropWhile edge).reverse

/-- Can the character stand in a scheme after its first letter? -/
def isSchemeChar (c : Char) : Bool := isLetter c || isDecimal c || c = '+' || c = '-' || c = '.'

/-- The scheme, in lower case, and what follows its colon. -/
def splitScheme? (cs : List Char) : Option (List Char × List Char) :=
  match cs with
  | [] => none
  | c :: _ =>
    if isLetter c then
      match cs.dropWhile isSchemeChar with
      | ':' :: rest => some ((cs.takeWhile isSchemeChar).map Char.toLower, rest)
      | _ => none
    else none

/-- The query and the fragment at the end of a URL, and what is before them. -/
def splitEnd (special : Bool) (cs : List Char) :
    List Char × Option (List Char) × Option (List Char) :=
  let (front, rest) := breakAt (fun c => c = '#') cs
  let fragment := match rest with
    | [] => none
    | _ :: f => some (encode inFragment f)
  let (path, rest) := breakAt (fun c => c = '?') front
  let query := match rest with
    | [] => none
    | _ :: q => some (encode (if special then inWebQuery else inQuery) q)
  (path, query, fragment)

/-- What stands before the last `@` of an authority, if there is one, and what stands behind it. -/
def splitUser (cs : List Char) : Option (List Char) × List Char :=
  if cs.contains '@' then
    let behind := (cs.reverse.takeWhile fun c => c ≠ '@').reverse
    (some (cs.take (cs.length - behind.length - 1)), behind)
  else (none, cs)

def nameAndPassword (cs : List Char) : List Char × List Char :=
  let (name, rest) := breakAt (fun c => c = ':') cs
  (encode inUser name, encode inUser (rest.drop 1))

/-- The host at the front of a text, which ends at a colon that does not stand between brackets, and what
follows it. `bracketed` says whether a bracket is open. -/
def splitHost (bracketed : Bool) : List Char → List Char × List Char
  | [] => ([], [])
  | c :: cs =>
    if c = ':' ∧ !bracketed then ([], c :: cs)
    else
      let (host, rest) := splitHost (c = '[' || (bracketed && c ≠ ']')) cs
      (c :: host, rest)

/-- The host, the digits behind its colon and what follows them. They end at a backslash even where this
separates no segments. -/
def splitNumber (cs : List Char) : List Char × Option (List Char) × List Char :=
  match splitHost false cs with
  | (host, _ :: rest) =>
    let (digits, beyond) := breakAt (fun c => c = '\\') rest
    (host, some digits, beyond)
  | (host, []) => (host, none, [])

/-- The number that digits behind a host write: none at all if there are none, or if it is the scheme's
own. -/
def portNumber? (scheme : List Char) (digits : Option (List Char)) : Option (Option Nat) :=
  match digits with
  | none | some [] => some none
  | some ds =>
    if ds.all isDecimal then
      (number? 10 ds).bind fun n =>
        if 65535 < n then none else if defaultNumber? scheme = some n then some none else some (some n)
    else none

/-! ## URLs with a host -/

/-- Reads what follows the two slashes after a scheme. A host may be empty only outside of the web, and
then there is neither a user nor a number. -/
def parseAuthority? (scheme : List Char) (cs : List Char) : Option Url := do
  let special := isSpecial scheme
  let (body, query, fragment) := splitEnd special cs
  let (authority, path) := breakAt (isSeparator special) body
  let (before, behind) := splitUser authority
  let (user, password) := nameAndPassword (before.getD [])
  let (hostPart, digits, beyond) := splitNumber behind
  let rest := beyond ++ path
  let marked := before = some [] && !(rest.isEmpty && query.isNone && fragment.isNone)
  if hostPart.isEmpty && (digits.isSome || marked || !user.isEmpty || !password.isEmpty) then none
  let number ← portNumber? scheme digits
  let host ← if special then hostText? hostPart else opaqueHostText? hostPart
  return { scheme, user, password, host := some host, portNumber := number,
           path := pathAfterHost special rest, query, fragment }

/-! ## Files -/

/-- The host of a file, empty for the machine itself. -/
def fileHost? (cs : List Char) : Option (List Char) :=
  if cs.isEmpty then some []
  else (hostText? cs).map fun host => if host = "localhost".toList then [] else host

/-- The host and the segments in a URL of the file scheme, in which tabs and line breaks are kept. A
drive takes the place of a host. -/
def splitFile? (body : List Char) : Option (List Char × List (List Char)) :=
  let segments := splitOn (isSeparator true)
  match skipBreaks body with
  | [] => some ([], segments [])
  | a :: rest =>
    if !isSeparator true a then some ([], segments body)
    else match skipBreaks rest with
      | [] => some ([], segments [])
      | b :: rest' =>
        if !isSeparator true b then some ([], segments rest)
        else
          let (hostPart, path) := breakAt (isSeparator true) rest'
          let hostPart := withoutBreaks hostPart
          if (drive? hostPart).isSome then some ([], segments rest')
          else (fileHost? hostPart).map fun host =>
            (host, segments (if host.isEmpty then path else path.drop 1))

/-- Reads what follows the colon of a URL of the file scheme, in which tabs and line breaks are kept. A
path on a drive leaves no host. -/
def parseFile? (scheme : List Char) (cs : List Char) : Option Url := do
  let (_, query, fragment) := splitEnd true (withoutBreaks cs)
  let (host, segments) ← splitFile? (cs.takeWhile fun c => c ≠ '?' ∧ c ≠ '#')
  let trail := Trail.follow Trail.addInFile .empty segments
  return { scheme, host := some (if trail.onDrive then [] else host), path := filePath trail,
           query, fragment }

/-! ## All URLs -/

def parseHostless (scheme : List Char) (cs : List Char) : Url :=
  let (body, query, fragment) := splitEnd false cs
  match body with
  | '/' :: rest => { scheme, path := pathOf false rest, query, fragment }
  | _ => { scheme, path := encode isControlOrBeyond body, query, fragment }

def parse? (text : String) : Option Url := do
  let cs := trimmed text.toList
  let (scheme, rest) ← splitScheme? (withoutBreaks cs)
  if isFile scheme then parseFile? scheme ((cs.dropWhile (· ≠ ':')).drop 1)
  else if isSpecial scheme then parseAuthority? scheme (rest.dropWhile (isSeparator true))
  else match rest with
    | '/' :: '/' :: rest => parseAuthority? scheme rest
    | _ => some (parseHostless scheme rest)

end Converge.Http.Url
