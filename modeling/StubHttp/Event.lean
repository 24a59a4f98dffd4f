import StubHttp.Catalog
import StubHttp.Text.Columns

/-!
# Log events

What the program tells its log. An event has a level, the part of the program
it comes from, a message and named fields. `Event.line` is how it is written
behind the time at which it happened.
-/

namespace StubHttp

inductive Level where
  | error
  | warn
  | info
  | debug
  | trace
  deriving DecidableEq

namespace Level

def name : Level → String
  | .error => "ERROR"
  | .warn => "WARN"
  | .info => "INFO"
  | .debug => "DEBUG"
  | .trace => "TRACE"

/-- How much a level lets through: an event of a level passes a limit that is not lower. -/
def verbosity : Level → Nat
  | .error => 1
  | .warn => 2
  | .info => 3
  | .debug => 4
  | .trace => 5

end Level

/-- The parts of the program that write to the log. -/
inductive Origin where
  | responder
  | server
  | transport
  | serveCommand
  deriving DecidableEq

/-- The name under which a part is logged and filtered. -/
def Origin.target : Origin → String
  | .responder => "fixture_protocol::responder"
  | .server => "fixture_adapters::http_server"
  | .transport => "axum::serve"
  | .serveCommand => "fixture_server::commands::serve"

structure Event where
  level : Level
  origin : Origin
  message : String
  fields : List (String × String)
  deriving DecidableEq

namespace Event

/-- The event as a line of the log, after its time. Levels are set flush right. -/
def line (e : Event) : String :=
  let fields := e.fields.map fun (name, value) => " " ++ name ++ "=" ++ value
  Text.flushRight 5 e.level.name ++ " " ++ e.origin.target ++ ": " ++ e.message
    ++ String.join fields

/-! ## The events of answering a request -/

/-- A fixture was found; tells its path and the bytes of its body. -/
def matched (f : Fixture) : Event :=
  ⟨.debug, .responder, "fixture matched", [("path", f.path), ("bytes", toString f.size)]⟩

def about (level : Level) (message method target : String) : Event :=
  ⟨level, .server, message, [("method", method), ("path", target)]⟩

def answered (method target : String) : Event :=
  about .debug "200" method target

def unmapped (method target : String) : Event :=
  about .warn "no fixture mapped" method target

def unsupported (method target : String) : Event :=
  about .warn "unsupported method" method target

def unwritten (reason : String) : Event :=
  ⟨.warn, .server, "Failed to write diagnostic: " ++ reason, []⟩

def dropped (line : String) : Event :=
  ⟨.warn, .server, "Diagnostic sink poisoned, dropped: " ++ line, []⟩

end Event

/-- The events that looking up a request in the catalog causes. -/
def Catalog.answerEvents (c : Catalog) (method target : String) : List Event :=
  match c.answer method target with
  | .ok f => [.matched f]
  | .error _ => []

end StubHttp
