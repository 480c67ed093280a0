import Converge.CommandLine.Reader
import Converge.CommandLine.Replay
import Converge.Http.Message
import Converge.Workspace.StateFile
import Std.Async.DNS
import Std.Async.TCP
import Std.Async.Timer

/-!
# The program

Reads the command line, the environment, the manifest and the state file, executes the command against
the server, and writes the state file whenever the store has changed. Connections are plain TCP: a
server that speaks TLS only is not reached.
-/

namespace Converge.CommandLine

open Std.Async (Async)

/-! ## Files -/

/-- What the system says of a failed file operation. -/
def systemText (e : IO.Error) : String :=
  match e with
  | .noFileOrDirectory .. => "No such file or directory (os error 2)"
  | e => e.toString

/-- The text in a file, or why it cannot be read. -/
def readText (path : String) : IO (Except String String) := do
  try
    match String.fromUTF8? (← IO.FS.readBinFile path) with
    | some text => return .ok text
    | none => return .error "stream did not contain valid UTF-8"
  catch e => return .error (systemText e)

/-- The store in a state file; a file that is not there holds no records. -/
def readStore (path : String) : IO (Except String StateStore) := do
  try
    match (String.fromUTF8? (← IO.FS.readBinFile path)).bind StateStore.parse? with
    | some store => return .ok store
    | none => return .error "not a state file"
  catch e =>
    match e with
    | .noFileOrDirectory .. => return .ok StateStore.empty
    | e => return .error (systemText e)

/-! ## Connections -/

/-- The milliseconds in which a reply has to come. -/
def replyLimit : Nat := 30000

/-- Everything that comes over a connection until it is closed. -/
partial def receiveAll (socket : Std.Async.TCP.Socket.Client) (got : ByteArray) : Async ByteArray := do
  match ← socket.recv? 65536 with
  | some bytes => receiveAll socket (got ++ bytes)
  | none => return got

/-- Sends a text over a connection and reads what comes back. -/
def converse (socket : Std.Async.TCP.Socket.Client) (text : String) : Async Http.Reply := do
  socket.send text.toUTF8
  return Http.Reply.ofBytes (← receiveAll socket ByteArray.empty).toList

/-- The address of a host on which a connection is made, if there is one. -/
def addressOf? (host : String) (number : UInt16) : Async (Option Std.Net.SocketAddress) := do
  let found : Array Std.Net.IPAddr ← Std.Async.DNS.getAddrInfo host ""
  match found.toList with
  | .v4 addr :: _ => return some (.v4 ⟨addr, number⟩)
  | .v6 addr :: _ => return some (.v6 ⟨addr, number⟩)
  | [] => return none

def connect? (u : Http.Url) : IO (Option Std.Async.TCP.Socket.Client) := do
  let host := (u.host.getD []).filter fun c => c ≠ '[' ∧ c ≠ ']'
  let number := (u.portNumber.orElse fun _ => Http.Url.defaultNumber? u.scheme).getD 80
  try
    match ← (addressOf? (String.ofList host) (UInt16.ofNat number)).block with
    | none => return none
    | some address =>
      let socket ← Std.Async.TCP.Socket.Client.mk
      (socket.connect address).block
      return some socket
  catch _ => return none

def exchange (u : Http.Url) (r : Http.Request) : IO Http.Reply := do
  match ← connect? u with
  | none => return .refused
  | some socket =>
    let late : Async Http.Reply := do
      Std.Async.sleep (Std.Time.Millisecond.Offset.ofNat replyLimit)
      return .timedOut
    let authority := String.ofList (u.authorityText.drop 2)
    try (Async.race (converse socket (r.text authority)) late).block
    catch _ => return .closed

/-! ## The command -/

/-- Executes an invocation, given the replies so far and the length of the pauses made. -/
partial def executeFrom (i : Invocation) (content : Except String String) (start : StateStore)
    (replies : List Http.Reply) (saved : StateStore) (slept : Delay) : IO Stage := do
  let stage := Stage.after i content start replies
  let store := stage.site.store
  if store ≠ saved then IO.FS.writeFile i.settings.stateFile store.render
  match stage.waiting, Http.Url.parse? i.settings.address with
  | some request, some u =>
    IO.sleep (UInt32.ofNat (min (stage.paused.millis - slept.millis) 4294967295))
    let reply ← exchange u request
    executeFrom i content start (replies ++ [reply]) store stage.paused
  | _, _ => return stage

/-- Executes an invocation and shows what it logs; gives the status of the process. -/
def execute (i : Invocation) : IO UInt32 := do
  let path := i.settings.stateFile
  match ← readStore path with
  | .error cause =>
    IO.eprintln ("Error: Failed to open state database " ++ path ++ "\n\nCaused by:\n    " ++ cause)
    return 1
  | .ok store =>
    let content ← readText (i.command.manifest?.getD "")
    let stage ← executeFrom i content store [] store Delay.zero
    for (level, line) in stage.site.world.journal.lines do
      IO.println (level.name ++ " " ++ line)
    match stage.result with
    | .ok _ => return 0
    | .error failure =>
      IO.eprintln failure.report
      return 1

def environment : IO Given := do
  let mut found : List (String × String) := []
  for s in Setting.shared do
    if let some name := s.environmentName? then
      if let some value ← IO.getEnv name then found := (name, value) :: found
  return Given.ofEnvironment fun name => found.lookup name

end Converge.CommandLine

open Converge.CommandLine in
def main (words : List String) : IO UInt32 := do
  match Invocation.parse (← environment) words with
  | .ok i => execute i
  | .error e =>
    match e with
    | .helpWanted | .versionWanted =>
      IO.println e.message
      return 0
    | _ =>
      IO.eprintln ("error: " ++ e.message)
      return 2
