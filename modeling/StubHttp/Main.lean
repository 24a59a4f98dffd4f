import Std.Async.Signal
import Std.Async.TCP
import Std.Time
import StubHttp.Program

/-!
# The command line

Runs the program on the machine at hand: sockets, signals, the clock and the
standard streams. What is printed and answered is decided elsewhere; this
module moves it. Each connection has a task of its own, and a stop waits for
those that are under way.
-/

namespace StubHttp.Shell

open Std.Async

/-! ## Output -/

/-- The time in universal time, in a pattern of letters for its parts. -/
def timeNow (pattern : String) : IO String := do
  let now ← Std.Time.Timestamp.now
  return (Std.Time.DateTime.ofTimestamp now .UTC).format pattern

def emit (filter : LogFilter) (outputs : List Output) : IO Unit := do
  let stream ← IO.getStdout
  for output in outputs.filter (·.shownBy filter) do
    match output with
    | .text s => stream.putStr s
    | .logged e =>
      let time ← timeNow "uuuu-MM-dd'T'HH:mm:ss.SSSSSS'Z'"
      stream.putStr (time ++ " " ++ e.line ++ "\n")
  stream.flush

def fail (f : Failure) : IO UInt8 := do
  (← IO.getStderr).putStr f.report
  return f.exitCode

/-! ## Sockets -/

def socketAddress : Net.Endpoint → Std.Net.SocketAddress
  | .v4 ip port => .v4 ⟨.ofParts ip.a ip.b ip.c ip.d, port⟩
  | .v6 ip port _ => .v6 ⟨⟨⟨ip.groups.toArray, by simp [ip.size_eq]⟩⟩, port⟩

/-- Opens a listening socket, and tells where it listens. The system lets its address be reused. -/
def openSocket (config : ServerConfig) : IO (TCP.Socket.Server × Net.Listener) := do
  let socket ← TCP.Socket.Server.mk
  socket.bind (socketAddress config.endpoint)
  socket.listen config.backlog.toUInt32
  let bound := config.endpoint.withPort (← socket.getSockName).port
  return (socket, ⟨bound, config.backlog⟩)

def errorNumber? : IO.Error → Option UInt32
  | .alreadyExists _ n _ | .otherError n _ | .resourceBusy n _ | .resourceVanished n _
  | .unsupportedOperation n _ | .hardwareFault n _ | .unsatisfiedConstraints n _
  | .illegalOperation n _ | .protocolError n _ | .timeExpired n _ | .interrupted _ n _
  | .noFileOrDirectory _ n _ | .invalidArgument _ n _ | .permissionDenied _ n _
  | .resourceExhausted _ n _ | .inappropriateType _ n _ | .noSuchThing _ n _ => some n
  | .unexpectedEof | .userError _ => none

/-- An error of the system; its number may come negated. -/
def systemError (e : IO.Error) : Net.IoError :=
  match errorNumber? e with
  | some n => .system ((if n < 0x80000000 then n else 0 - n).toNat : Nat)
  | none => .custom e.toString

/-! ## Connections -/

/-- Reads from a client until its request is settled or it stops. -/
partial def receive (client : TCP.Socket.Client) (sent : ByteArray) : Async String := do
  let text := Text.decode sent.toList
  if Http.isSettled text then return text
  match ← client.recv? 8192 with
  | none => return text
  | some bytes => receive client (sent ++ bytes)

def serveClient (server : Server) (filter : LogFilter) (client : TCP.Socket.Client) :
    Async Unit := do
  let raw ← receive client .empty
  let served := Http.serveConnection server.catalog server.console raw
  emit filter (server.outputOf (server.withConsole served.console) served.events)
  if let some response := served.response then
    let date ← timeNow "EEE, dd MMM uuuu HH:mm:ss 'GMT'"
    client.send (response.print date).toUTF8
  client.shutdown

/-- Takes in connections for ever, each as a task of its own, and keeps the unfinished tasks. -/
partial def acceptAll (socket : TCP.Socket.Server) (serve : TCP.Socket.Client → Async Unit)
    (tasks : IO.Ref (List (AsyncTask Unit))) : Async Unit := do
  let client ← socket.accept
  let task : AsyncTask Unit ← async (serve client)
  let running ← (← tasks.get).filterM fun t => (!·) <$> IO.hasFinished t
  tasks.set (task :: running)
  acceptAll socket serve tasks

/-- Waits for one of the signals that stop the program. -/
def awaitStop : IO Unit := do
  let interrupt ← (← Signal.Waiter.mk .sigint false).wait
  let terminate ← (← Signal.Waiter.mk .sigterm false).wait
  let _ ← IO.waitAny [interrupt, terminate]

def runServer (server : Server) (filter : LogFilter) (socket : TCP.Socket.Server) : IO Unit := do
  let tasks ← IO.mkRef []
  let _ ← Async.toIO (acceptAll socket (serveClient server filter) tasks)
  awaitStop
  for task in ← tasks.get do
    let _ ← EIO.toBaseIO task.block

/-- Serves the built-in catalog until a signal comes. -/
def serve (endpoint : Net.Endpoint) : IO UInt8 := do
  let filter := LogFilter.ofSetting (← IO.getEnv "RUST_LOG")
  let setup := HttpServer.builtIn endpoint
  match ← EIO.toBaseIO (openSocket setup.config) with
  | .error e => fail (.startup endpoint (.bind endpoint (systemError e)))
  | .ok (socket, listener) =>
    let server := Server.builtIn endpoint (setup.behind listener)
    emit filter (server.announce [.boundTo listener.endpoint])
    runServer server filter socket
    emit filter (Server.farewell [.stoppedOn server.endpoint])
    return 0

def run (words : List String) : IO UInt8 := do
  match Job.ofWords words with
  | .print text =>
    IO.print text
    return 0
  | .fail f => fail f
  | .serve endpoint => serve endpoint

end StubHttp.Shell

def main (words : List String) : IO UInt32 := do
  return (← StubHttp.Shell.run words).toUInt32
