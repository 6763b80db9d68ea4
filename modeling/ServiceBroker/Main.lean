import ServiceBroker.CommandLine.Startup
import ServiceBroker.Http.Wire
import ServiceBroker.Text.Uuid

/-!
# The command line program

The program prepares a server from its arguments, files and environment. It has no network of its
own: requests come on the standard input and answers go to the standard output, one after the other,
as a process that accepts connections would pass them on. Nor can it reach the cluster-management
API.
-/

namespace ServiceBroker.Console

/-- What a path leads to, as far as opening it shows. -/
def findFile (path : String) : IO (Option Files.Entry) := do
  match ← (IO.FS.readBinFile path).toBaseIO with
  | .ok _ => return some .file
  | .error (.noFileOrDirectory ..) => return none
  | .error _ => return some .directory

/-- The content of a file. -/
def readFile (path : String) : IO (Except String (List UInt8)) := do
  match ← (IO.FS.readBinFile path).toBaseIO with
  | .ok content => return .ok content.toList
  | .error (.noFileOrDirectory ..) => return .error Files.missing
  | .error e => return .error (toString e)

/-- The reply to a request for files. -/
def answerFiles : (r : Files.Request) → IO r.Reply
  | .find path => findFile path
  | .read path => readFile path

/-- The variables of the environment. -/
def environment : IO Startup.Environment := do
  match ← readFile "/proc/self/environ" with
  | .error _ => return []
  | .ok bytes =>
    return (splitAt (· == 0) bytes).filterMap fun entry =>
      if entry.contains 61 then
        let (name, value) := cutAt (· == 61) entry
        some (String.ofList (Utf8.decodeLossy name), String.ofList (Utf8.decodeLossy value))
      else none

/-- The reply to a request of a remote executor that reaches nobody. -/
def answerOffline : (r : Remote.Request) → StateM Locator.Script r.Reply
  | .locate r => Locator.Script.answer r
  | .post _ => pure Remote.Delivery.dropped

/-- A remote executor that reaches nobody. -/
def offline (remote : Remote) : Executor Locator.Script where
  kind := remote.executor.kind
  perform op := (remote.perform op).runIn answerOffline

/-- No token can be validated without a network. -/
def noReview (_ : String) : Except Failure String := .error (.internal "TokenReview API error: ")

/-- Answer the requests on the standard input until it ends. -/
partial def serve {σ : Type} (s : Server) (e : Executor σ) (state : Server.State σ)
    (received : List UInt8) : IO Unit := do
  match Http.Wire.next received with
  | .malformed => return
  | .request r rest =>
    let (answer, state) := s.serve e noReview r state
    let output ← IO.getStdout
    output.write ⟨(Http.Wire.write answer).toArray⟩
    output.flush
    serve s e state rest
  | .incomplete =>
    let more ← (← IO.getStdin).read 65536
    if more.isEmpty then return
    serve s e state (received ++ more.toList)

/-- Serve with everything that is ready. -/
def listen (ready : Startup.Ready) : IO Unit := do
  let random ← IO.getRandomBytes 16
  let server := ready.server (Uuid.ofRandom random.toList)
  match ready.executor with
  | .inMemory => serve server InMemory.executor (.start .empty) []
  | .remote remote => serve server (offline remote) (.start ⟨[], [], []⟩) []

/-- Run the program with its arguments, to its exit code. -/
def run (arguments : List String) : IO UInt32 := do
  match ← (Startup.command arguments (← environment)).runIn answerFiles with
  | .print lines =>
    for line in lines do IO.println line
    return 0
  | .fail message exitCode =>
    IO.eprintln message
    return exitCode.toUInt32
  | .listen ready =>
    listen ready
    return 0

end ServiceBroker.Console

/-- The program. -/
def main (arguments : List String) : IO UInt32 := ServiceBroker.Console.run arguments
