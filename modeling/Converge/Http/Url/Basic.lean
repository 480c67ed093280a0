import Converge.Http.Host

/-!
# URLs

A URL in parts, each in its one form. `Url.text` is the form of the whole, and `Url.target` what a request
asks a server for.
-/

namespace Converge.Http

/-- A URL in parts, each in its one form. -/
structure Url where
  scheme : List Char
  /-- The name of a user, empty if there is none. -/
  user : List Char := []
  /-- The password of the user, empty if there is none. -/
  password : List Char := []
  /-- The host, empty if the URL has the place of one but names none. -/
  host : Option (List Char) := none
  /-- The number behind the colon of the host, unless it is the one that the scheme stands for. -/
  portNumber : Option Nat := none
  path : List Char
  query : Option (List Char)
  fragment : Option (List Char)
deriving DecidableEq, Repr

namespace Url

/-! ## Schemes -/

/-- The number that a scheme stands for if none is given, for the schemes that the rules of the web
treat alike. -/
def defaultNumber? (scheme : List Char) : Option Nat :=
  match String.ofList scheme with
  | "http" => some 80
  | "ws" => some 80
  | "https" => some 443
  | "wss" => some 443
  | "ftp" => some 21
  | _ => none

def isFile (scheme : List Char) : Bool := scheme = "file".toList

/-- Do the rules of the web hold for the scheme? -/
def isSpecial (scheme : List Char) : Bool := (defaultNumber? scheme).isSome || isFile scheme

/-! ## Text -/

/-- A part of a URL after its mark, nothing if there is no such part. -/
def marked (mark : Char) : Option (List Char) → List Char
  | none => []
  | some cs => mark :: cs

def userText (u : Url) : List Char :=
  if u.user.isEmpty && u.password.isEmpty then []
  else if u.password.isEmpty then u.user ++ ['@']
  else u.user ++ ':' :: u.password ++ ['@']

/-- The form of the user, the host and the number behind it. -/
def authorityText (u : Url) : List Char :=
  match u.host with
  | none => []
  | some host => ['/', '/'] ++ u.userText ++ host ++ marked ':' (u.portNumber.map decimalText)

/-- The form of the path. Without a host a path does not begin with two slashes, what follows them would
be read as one. -/
def pathText (u : Url) : List Char :=
  if u.host.isNone && ['/', '/'].isPrefixOf u.path then ['/', '.'] ++ u.path else u.path

def text (u : Url) : String :=
  String.ofList (u.scheme ++ ':' :: u.authorityText ++ u.pathText ++ marked '?' u.query
    ++ marked '#' u.fragment)

/-- What a request for the URL asks its server for. -/
def target (u : Url) : String := String.ofList (u.path ++ marked '?' u.query)

/-! ## Properties -/

/-- Can the URL be asked for with the protocol of the web? -/
def isWeb (u : Url) : Bool := u.scheme = "http".toList || u.scheme = "https".toList

def hasHost (u : Url) : Bool :=
  match u.host with
  | none | some [] => false
  | some _ => true

/-- The length that the text of a URL in a request does not exceed, in bytes. -/
def maximalSize : Nat := 65534

/-- Can the URL stand in a request? Some hosts that can be read cannot. -/
def isSendable (u : Url) : Bool :=
  (u.host.getD []).all (fun c => !"\"\x60\x7b\x7d".toList.contains c) &&
    u.text.utf8ByteSize ≤ maximalSize

/-- The text that percent-encoded characters stand for, if it is one. -/
def decodedText? (cs : List Char) : Option String :=
  String.fromUTF8? (ByteArray.mk (decode cs).toArray)

/-- The URL without its user, who is told to the server in another way. A user whose name cannot be
told stays, and so does a password that cannot be told without a name. -/
def withoutUser (u : Url) : Url :=
  let told := (decodedText? u.user).isSome &&
    (!u.user.isEmpty || (decodedText? u.password).isSome)
  if told then { u with user := [], password := [] } else u

end Url

end Converge.Http
