import Converge.Http.Url.Basic

/-!
# Paths

The path of a URL is a sequence of segments, of which `.` and `..` are resolved: the first stands for
nothing, the second removes the segment before it. A segment that looks like the name of a drive is not
removed. The path of a file that begins with the name of a drive has a colon in it, and one slash at its
front.

Tabs and line breaks do not count in a URL. Only behind the colon of a drive's name at the front of a
file's path one of them does: it ends the name, and what follows is a segment that stands for itself.
-/

namespace Converge.Http.Url

open Text (splitOn)

def isLetter (c : Char) : Bool := decide ('a' ≤ c ∧ c ≤ 'z') || decide ('A' ≤ c ∧ c ≤ 'Z')

/-- Is the character a tab or a line break? -/
def isBreak (c : Char) : Bool := c = '\t' || c = '\n' || c = '\r'

def withoutBreaks (cs : List Char) : List Char := cs.filter fun c => !isBreak c

/-- The text without the tabs and line breaks at its front. -/
def skipBreaks (cs : List Char) : List Char := cs.dropWhile isBreak

/-- Does the character separate the segments of a path? In a web URL a backslash is a slash. -/
def isSeparator (special : Bool) (c : Char) : Bool := c = '/' || (special && c = '\\')

/-- The name of a drive, a letter with a colon or a bar, with a colon. -/
def drive? : List Char → Option (List Char)
  | [c, d] => if isLetter c ∧ (d = ':' ∨ d = '|') then some [c, ':'] else none
  | _ => none

/-- Does a segment look like the name of a drive, so that it is not removed? -/
def looksLikeDrive (segment : List Char) : Bool :=
  (drive? (segment.take 2)).isSome && (segment.drop 2).head?.all (· = '\\')

/-- A segment with its encoded points decoded, if it is nothing but points. -/
def dots (segment : List Char) : List Char :=
  match segment with
  | '%' :: '2' :: e :: rest => if e = 'e' ∨ e = 'E' then '.' :: dots rest else segment
  | '.' :: rest => '.' :: dots rest
  | _ => segment

/-- The segments of a path so far. -/
structure Trail where
  /-- The segments, last first. -/
  segments : List (List Char)
  /-- Is the first one the name of a drive, by which the host of a file is replaced? -/
  onDrive : Bool
deriving DecidableEq, Repr

namespace Trail

def empty : Trail := ⟨[], false⟩

def push (t : Trail) (segment : List Char) : Trail := { t with segments := segment :: t.segments }

def pop (t : Trail) : Trail :=
  match t.segments with
  | [] => t
  | s :: rest => if looksLikeDrive s then t else { t with segments := rest }

def add (t : Trail) (segment : List Char) (last : Bool) : Trail :=
  let close (t : Trail) : Trail := if last then t.push [] else t
  match dots segment with
  | ['.', '.'] => close t.pop
  | ['.'] => close t
  | _ => t.push (encode inPath segment)

/-- The name of a drive that a tab or a line break ends, and what follows it. -/
def cutDrive? (segment : List Char) : Option (List Char × List Char) :=
  match skipBreaks segment with
  | [] => none
  | c :: rest =>
    match skipBreaks rest with
    | ':' :: b :: more =>
      let behind := withoutBreaks more
      if isLetter c ∧ isBreak b ∧ behind ≠ [] then some ([c, ':'], behind) else none
    | _ => none

/-- Adds a segment of a file's path, which may hold tabs and line breaks. -/
def addInFile (t : Trail) (segment : List Char) (last : Bool) : Trail :=
  let plain := withoutBreaks segment
  if t.segments.isEmpty then
    match cutDrive? segment, drive? plain with
    | some (drive, behind), _ => (t.push drive).push (encode inPath behind)
    | none, some drive => ⟨[drive], true⟩
    | none, none => t.add plain last
  else t.add plain last

/-- Goes along the segments of a path. -/
def follow (step : Trail → List Char → Bool → Trail) : Trail → List (List Char) → Trail
  | t, [] => t
  | t, [s] => step t s true
  | t, s :: rest => follow step (step t s false) rest

def text (t : Trail) : List Char := t.segments.reverse.flatMap fun s => '/' :: s

end Trail

/-- The path behind a host, or behind the first slash if there is none. -/
def pathOf (special : Bool) (cs : List Char) : List Char :=
  (Trail.follow Trail.add .empty (splitOn (isSeparator special) cs)).text

def pathAfterHost (special : Bool) (cs : List Char) : List Char :=
  match cs with
  | [] => if special then ['/'] else []
  | c :: rest => pathOf special (if isSeparator special c then rest else c :: rest)

def filePath (t : Trail) : List Char := '/' :: t.text.dropWhile (· = '/')

end Converge.Http.Url
