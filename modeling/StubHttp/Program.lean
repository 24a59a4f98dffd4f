import StubHttp.CommandLine.ListenHost
import StubHttp.CommandLine.Parse
import StubHttp.LogFilter.Reader

/-!
# The program

What the program does for a command line. A `Job` is what is left to do once
the command line has been read: print something and end, or serve the built-in
catalog. A server that has been started announces itself, answers requests
until it is told to stop, and takes its leave; its diagnostics and its log go to
the same output, in the order in which they arise.

`run` puts this together for a host and a list of requests. All events are in
its output; those that a filter lets through are told by `Output.shownBy`.
-/

namespace StubHttp

open CommandLine Net

inductive Output where
  | text (s : String)
  | logged (e : Event)
  deriving DecidableEq

def Output.shownBy (f : LogFilter) : Output → Bool
  | .text _ => true
  | .logged e => f.shows e

/-! ## Failures -/

inductive Failure where
  | usage (error : UsageError)
  | host (error : HostError)
  | startup (endpoint : Endpoint) (error : ServerError)
  | serving (error : ServerError)
  deriving DecidableEq

namespace Failure

/-- Causes below a message, numbered from zero if there are several. -/
def listCauses : List String → String
  | [] => ""
  | [cause] => "\nCaused by:\n    " ++ cause ++ "\n"
  | causes => "\nCaused by:\n" ++ String.join (causes.zipIdx.map fun (cause, i) =>
      Text.flushRight 5 (toString i) ++ ": " ++ cause ++ "\n")

def explain (message : String) (causes : List String) : String :=
  "Error: " ++ message ++ "\n" ++ listCauses causes

def report : Failure → String
  | .usage e => e.report
  | .host e => explain e.message [e.cause]
  | .startup endpoint e =>
    explain ("Failed to start fixture server on " ++ endpoint.address.print ++ ":"
      ++ toString endpoint.port.toNat) [e.message, e.cause.message]
  | .serving e => explain e.message [e.cause.message]

def exitCode : Failure → UInt8
  | .usage _ => 2
  | .host _ | .startup _ _ | .serving _ => 1

end Failure

/-! ## Jobs -/

inductive Job where
  | print (text : String)
  | fail (failure : Failure)
  | serve (endpoint : Endpoint)

def Job.ofOptions (options : ServeOptions) : Job :=
  match options.endpoint with
  | .ok endpoint => .serve endpoint
  | .error e => .fail (.host e)

def Job.ofWords (words : List String) : Job :=
  match CommandLine.parse words with
  | .ok .noCommand => .ofOptions .default
  | .ok (.serve options) => .ofOptions options
  | .ok .routes => .print Catalog.builtIn.listing
  | .error (.help topic) => .print topic.helpText
  | .error .version => .print versionText
  | .error (.invalid e) => .fail (.usage e)

/-! ## Serving -/

def ServerConfig.at (endpoint : Endpoint) : ServerConfig :=
  { ServerConfig.default with endpoint }

/-- The server of the program, for the endpoint that is asked for. -/
def HttpServer.builtIn (endpoint : Endpoint) : HttpServer :=
  .new (.at endpoint) .builtIn

/-- The server of the program once it is bound: it waits for a signal, and nothing has been written
yet. -/
def Server.builtIn (endpoint : Endpoint) (bound : BoundServer) : Server :=
  ⟨.builtIn endpoint, bound, .whenTold, ⟨.empty .unlimited, .empty .unlimited⟩⟩

def Output.milestone (message : String) (fields : List (String × String)) : Output :=
  .logged ⟨.info, .serveCommand, message, fields⟩

/-- A remark of the transport about its own work. -/
def Output.remark (message : String) : Output :=
  .logged ⟨.trace, .transport, message, []⟩

namespace Server

/-- What a server prints when it has been bound, which has logged these events. -/
def announce (s : Server) (events : List Event) : List Output :=
  events.map .logged ++ [.text (s.catalog.banner s.endpoint),
    .milestone "Fixture table loaded" [("routes", toString s.catalog.size)],
    .logged (.servingOn s.endpoint)]

/-- What the transport prints after it has been told to stop, once no connection is left. -/
def windingUp : List Output :=
  [.remark "received graceful shutdown signal. Telling tasks to shutdown",
    .remark "signal received, not accepting new connections",
    .remark "waiting for 0 task(s) to finish"]

/-- What a server prints when it has ended, which has logged these events. -/
def farewell (events : List Event) : List Output :=
  windingUp ++ events.map .logged ++ [.milestone "Fixture server shutdown complete" []]

/-- What a server prints when its transport has failed in the end. -/
def breakdown (e : ServerError) : List Output :=
  windingUp ++ [.logged ⟨.error, .serveCommand, "Fixture server failed: " ++ e.message, []⟩]

/-- What has been printed in a step that led from one server to another: the diagnostics, and
then the events. -/
def outputOf (before after : Server) (events : List Event) : List Output :=
  let text := after.console.growthSince before.console
  (if text.isEmpty then [] else [.text text]) ++ events.map .logged

/-- What has been printed in a run of steps. -/
def transcript (s : Server) : List (StepResult × Server × List Event) → List Output
  | [] => []
  | (_, s', events) :: rest => s.outputOf s' events ++ s'.transcript rest

end Server

/-! ## Whole runs -/

structure Run where
  exitCode : UInt8
  output : List Output
  errors : String
  /-- Where a server has listened, if one was started. -/
  endpoint : Option Endpoint
  /-- What the clients got, for each request. -/
  results : List StepResult

namespace Run

def printed (text : String) : Run :=
  ⟨0, [.text text], "", none, []⟩

def failed (f : Failure) : Run :=
  ⟨f.exitCode, [], f.report, none, []⟩

/-- The run of a server that has been bound, which has logged these events, gets these requests and
is then told to stop. -/
def served (host : Host) (s : Server) (opening : List Event) (requests : List String) : Run :=
  let taken := s.run host (requests.map .request)
  let printed := s.announce opening ++ s.transcript taken
  let results := taken.map (·.1)
  match s.stop host with
  | .ok (_, closing) => ⟨0, printed ++ Server.farewell closing, "", some s.endpoint, results⟩
  | .error e =>
    let failure := Failure.serving e
    ⟨failure.exitCode, printed ++ Server.breakdown e, failure.report, some s.endpoint, results⟩

end Run

/-- Runs the program where binding an endpoint has these outcomes. -/
def runWith (host : Host) (binding : Endpoint → Except IoError Endpoint)
    (words requests : List String) : Run :=
  match Job.ofWords words with
  | .print text => .printed text
  | .fail f => .failed f
  | .serve endpoint =>
    match (HttpServer.builtIn endpoint).bind fun _ => binding with
    | .error e => .failed (.startup endpoint e)
    | .ok (bound, opening) => .served host (.builtIn endpoint bound) opening requests

/-- Runs the program on a host whose endpoints are all free. -/
def run (host : Host) (words requests : List String) : Run :=
  runWith host (host.bind []) words requests

end StubHttp
