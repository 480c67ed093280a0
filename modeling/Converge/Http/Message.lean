import Converge.Http.Server
import Converge.Http.Url.Reader
import Converge.Json.Printer

/-!
# Messages

Requests and replies as the bytes of a connection that carries one of each: a request asks the server to
close the connection behind its reply. A reply counts as closed if it has no complete head, and as
truncated if its body ends before the length that was announced or before its last chunk.
-/

namespace Converge.Http

/-! ## Requests -/

def headerLine (name value : String) : String := name ++ ": " ++ value ++ "\r\n"

/-- The text of a request to the server at an authority. -/
def Request.text (authority : String) (r : Request) : String :=
  let body := (r.body.map Json.render).getD ""
  let bodyLines := match r.body with
    | some _ => headerLine "content-type" "application/json"
        ++ headerLine "content-length" (Number.intText body.utf8ByteSize)
    | none => ""
  r.method.name ++ " " ++ r.target ++ " HTTP/1.1\r\n"
    ++ headerLine "host" authority ++ headerLine "accept" "*/*" ++ headerLine "connection" "close"
    ++ String.join (r.headers.map fun h => headerLine h.1 h.2)
    ++ bodyLines ++ "\r\n" ++ body

/-! ## Replies -/

/-- What stands before the first place of a separator, and what stands behind it. -/
def splitBytes (separator : List UInt8) : List UInt8 → Option (List UInt8 × List UInt8)
  | [] => none
  | b :: bs =>
    if separator.isPrefixOf (b :: bs) then some ([], (b :: bs).drop separator.length)
    else (splitBytes separator bs).map fun p => (b :: p.1, p.2)

def lineEnd : List UInt8 := [13, 10]

/-- Bytes as characters, one for each. -/
def latinChars (bs : List UInt8) : List Char := bs.map fun b => Char.ofNat b.toNat

/-- The text of a body; in one that is not UTF-8 every byte beyond ASCII is replaced. -/
def bodyText (bs : List UInt8) : String :=
  match String.fromUTF8? ⟨bs.toArray⟩ with
  | some s => s
  | none => String.ofList (bs.map fun b => if b < 128 then Char.ofNat b.toNat else '\uFFFD')

def trimBlanks (cs : List Char) : List Char :=
  let blank (c : Char) : Bool := c = ' ' || c = '\t'
  (((cs.dropWhile blank).reverse).dropWhile blank).reverse

def statusOf? (line : List Char) : Option Nat :=
  match (line.dropWhile fun c => c ≠ ' ').dropWhile fun c => c = ' ' with
  | a :: b :: c :: _ => if line.take 5 = "HTTP/".toList then number? 10 [a, b, c] else none
  | _ => none

/-- The name in lower case and the value of a line of a head. -/
def headerOf (line : List Char) : String × List Char :=
  (String.ofList ((line.takeWhile fun c => c ≠ ':').map Char.toLower),
    trimBlanks ((line.dropWhile fun c => c ≠ ':').drop 1))

/-- The content of a body in chunks, none if it does not end. `fuel` bounds the number of chunks. -/
def joinChunks : Nat → List UInt8 → Option (List UInt8)
  | 0, _ => none
  | fuel + 1, bs => do
    let (line, rest) ← splitBytes lineEnd bs
    let n ← number? 16 (trimBlanks ((latinChars line).takeWhile fun c => c ≠ ';'))
    if n = 0 then some []
    else if rest.length < n + lineEnd.length then none
    else return rest.take n ++ (← joinChunks fuel (rest.drop (n + lineEnd.length)))

/-- The body of a reply with some headers, none if it is cut off. -/
def bodyOf? (headers : List (String × List Char)) (bs : List UInt8) : Option (List UInt8) :=
  match headers.lookup "transfer-encoding", headers.lookup "content-length" with
  | some coding, _ => if coding = "chunked".toList then joinChunks (bs.length + 1) bs else some bs
  | none, some length =>
    match number? 10 length with
    | some n => if bs.length < n then none else some (bs.take n)
    | none => some bs
  | none, none => some bs

/-- The reply in the bytes of a connection. -/
def Reply.ofBytes (bs : List UInt8) : Reply :=
  match splitBytes (lineEnd ++ lineEnd) bs with
  | none => .closed
  | some (head, rest) =>
    match Text.splitOn (fun c => c = '\n') ((latinChars head).filter fun c => c ≠ '\r') with
    | [] => .closed
    | first :: lines =>
      match statusOf? first with
      | none => .closed
      | some status =>
        if status = 204 ∨ status = 304 then .answer status ""
        else match bodyOf? (lines.map headerOf) rest with
          | some body => .answer status (bodyText body)
          | none => .truncated status

end Converge.Http
