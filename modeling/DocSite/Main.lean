import DocSite.Command.Run
import DocSite.Web.Message
import Std.Async.DNS
import Std.Async.Signal
import Std.Async.System
import Std.Async.TCP
import Std.Async.Timer

/-!
# The program

The program finds its surroundings, carries out the command that it is called with, and passes on the
outcome. It fetches documents over connections without encryption; a URL that needs encryption cannot
be reached.
-/

namespace DocSite.Program

open Std.Async Std.Net
open Storage (Place Entry)
open Web (Destination Reply)

/-! ## Surroundings -/

/-- What is at a place of the disk. -/
def entryAt (place : Place) : IO Entry := do
  let file := (← IO.currentDir) / String.ofList (Storage.pathOf place)
  if ← file.isDir then return .directory
  try
    return .file (← IO.FS.readBinFile file).toList
  catch _ => return .missing

/-- The paths that a command looks at. -/
def pathsOf (directory : Place) : Command → List Text
  | .serve source .. | .headings _ source _ | .url _ source | .sidebar source _ =>
    sourcePaths source
  | .render _ source _ file => sourcePaths source ++ file.toList
where
  /-- The paths at which a configuration file may be. -/
  sourcePaths (source : Command.SourceOptions) : List Text :=
    match source.configFile with
    | some path => [path]
    | none => (Config.chain directory).map (Storage.pathIn · Config.fileName)

/-- What the program finds when it is called with certain words. -/
def observe (words : List Text) : IO Surroundings := do
  let found ← System.getEnv
  let environment : Environment := fun name =>
    (found.get? (String.ofList name)).map String.toList
  let directory := Storage.placeOf (← IO.currentDir).toString.toList
  let paths := match Command.ofWords environment words with
    | .ok command => pathsOf directory command
    | .error _ => []
  let places := (paths.flatMap (FileSystem.visited directory)).eraseDups
  let entries ← places.mapM fun place => return (place, ← entryAt place)
  let files : FileSystem := { entry := fun place => (entries.lookup place).getD .missing }
  return { files, directory, environment }

/-! ## Fetching -/

/-- Bytes as they are sent. -/
def packed (bytes : Text.Bytes) : ByteArray := ⟨bytes.toArray⟩

/-- Everything that a connection brings, or as much of it as is enough. -/
partial def receive (client : TCP.Socket.Client) (isEnough : Text.Bytes → Bool)
    (received : Text.Bytes) : Async Text.Bytes := do
  if isEnough received then return received
  match ← client.recv? 65536 with
  | none => return received
  | some bytes => receive client isEnough (received ++ bytes.toList)

/-- What a host sends back to a request. -/
def exchange (destination : Destination) : Async (Option Reply) := do
  let port := UInt16.ofNat destination.port
  let addresses ← DNS.getAddrInfo (String.ofList destination.host) (toString destination.port)
  match addresses[0]? with
  | none => return none
  | some address =>
    let client ← TCP.Socket.Client.mk
    client.connect <| match address with
      | .v4 host => .v4 ⟨host, port⟩
      | .v6 host => .v6 ⟨host, port⟩
    client.send (packed destination.request)
    return Reply.parse? (← receive client (fun _ => false) [])

/-- The greatest number of seconds that is waited for a reply. -/
def longestWait : Nat := 86400

/-- The reply to the request for a URL, if it comes in time. -/
def replyOf (timeout : Nat) (url : Text) : IO (Option Reply) := do
  match Destination.parse? url with
  | none => return none
  | some destination =>
    let late : Async (Option Reply) := do
      sleep (.ofNat (1000 * min timeout longestWait))
      return none
    try (Async.race (exchange destination) late).block
    catch _ => return none

/-- Fetches a URL, following a number of redirections. -/
def fetchFrom (timeout : Nat) (url : Text) : (redirections : Nat) → Text → IO Fetched
  | count, current => do
    match ← replyOf timeout current with
    | none => return .error (.transport url)
    | some reply =>
      match count, reply.redirection? current with
      | 0, some _ => return .error (.transport url)
      | count + 1, some next => fetchFrom timeout url count next
      | _, none => return reply.fetched url

/-- How many redirections are followed. -/
def greatestRedirections : Nat := 10

/-- Fetches a URL. -/
def fetch (timeout : Nat) (url : Text) : IO Fetched :=
  fetchFrom timeout url greatestRedirections url

/-- Carries out a computation that fetches. -/
def answering {α : Type} (fetch : Text → IO Fetched) : Fetching α → IO α
  | .done result => return result
  | .ask url next => do answering fetch (next (← fetch url))

/-! ## Serving -/

/-- A socket address as the system takes it. -/
def systemAddress (address : Web.SocketAddress) : SocketAddress :=
  let port := UInt16.ofNat address.port
  match address.host with
  | .four a b c d => .v4 ⟨.ofParts a.toUInt8 b.toUInt8 c.toUInt8 d.toUInt8, port⟩
  | .eight groups _ => .v6 ⟨⟨Vector.ofFn fun i => (groups.getD i.val 0).toUInt16⟩, port⟩

/-- Answers the request on one connection. -/
def answerClient (fetch : Text → IO Fetched) (viewer : Viewer) (client : TCP.Socket.Client) :
    Async Unit := do
  let received ← receive client (fun bytes => (Web.cutHead? bytes).isSome) []
  let response ← match Web.Request.parse? received with
    | none => pure Web.Response.badRequest
    | some request => answering fetch (Web.Server.respond viewer request)
  client.send (packed response.send)
  client.shutdown

/-- Accepts connections without end. -/
partial def acceptAll (fetch : Text → IO Fetched) (viewer : Viewer) (server : TCP.Socket.Server) :
    Async Unit := do
  let client ← server.accept
  background (answerClient fetch viewer client)
  acceptAll fetch viewer server

/-- Serves a site until the program is interrupted. -/
def serve (fetch : Text → IO Fetched) (viewer : Viewer) (address : Web.SocketAddress) : IO Unit := do
  let server ← TCP.Socket.Server.mk
  server.bind (systemAddress address)
  server.listen 128
  let waiter ← Signal.Waiter.mk .sigint false
  let interrupted ← waiter.wait
  let _ ← (acceptAll fetch viewer server).toIO
  let _ ← interrupted.block

/-! ## Outcomes -/

/-- Tells a text on the side. -/
def tell (text : Text) : IO Unit := do
  (← IO.getStderr).putStr (String.ofList text)

/-- Tells why something failed. -/
def tellFailure (error : IO.Error) : IO UInt32 := do
  tell (Outcome.failureLine (toString error).toList)
  return 1

/-- Passes on the outcome of a command, and gives its status. -/
def conclude (outcome : Outcome) : IO UInt32 := do
  try
    if let some (place, text) := outcome.written then
      IO.FS.writeFile (String.ofList (Storage.pathOf place)) (String.ofList text)
    (← IO.getStdout).putStr (String.ofList outcome.output)
    tell outcome.messages
    return outcome.status.toUInt32
  catch error => tellFailure error

/-- The time that fetching may take when a command is called with certain words. -/
def timeoutOf (surroundings : Surroundings) (words : List Text) : Nat :=
  let loaded := do
    let command ← (Command.ofWords surroundings.environment words).toOption
    (Config.load surroundings command.source.configFile none).toOption
  (loaded.map (·.config.timeout)).getD Config.default.timeout

/-- Carries out the command that the program is called with. -/
def run (words : List Text) : IO UInt32 := do
  let surroundings ← observe words
  let fetch := fetch (timeoutOf surroundings words)
  match ← answering fetch (Command.runWords surroundings words) with
  | .finish outcome => conclude outcome
  | .serve messages viewer address =>
    tell messages
    try
      serve fetch viewer address
      return 0
    catch error => tellFailure error

end DocSite.Program

/-- The entry of the program. -/
def main (arguments : List String) : IO UInt32 :=
  DocSite.Program.run (arguments.map String.toList)
