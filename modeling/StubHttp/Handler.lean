import StubHttp.Console
import StubHttp.Http.Method
import StubHttp.Http.Uri
import StubHttp.Http.Reply

/-!
# Answering requests

`handle` answers one request from the catalog: a fixture with status 200, an
unmapped target with status 500 and a line on the console, another method than
GET with status 501. The reply depends on nothing but the catalog, the method
and the target; what becomes of the diagnostic line shows only on the console
and in the log.

`exchange` takes method and URI as text, and rejects what is not one before the
handler sees it.
-/

namespace StubHttp

open Http

/-! ## Replies -/

/-- The headers of a fixture. -/
def Fixture.headers : List Header :=
  [("content-type", Fixture.contentType), ("connection", "close")]

def Fixture.reply (f : Fixture) : Reply :=
  ⟨.ok, Fixture.headers, f.body⟩

/-- The headers of a refusal. -/
def Refusal.headers : List Header :=
  [("content-type", plainText), ("connection", "close")]

def Refusal.reply (r : Refusal) : Reply :=
  match r with
  | .unmapped _ => ⟨.internalServerError, Refusal.headers, r.message⟩
  | .unsupported _ => ⟨.notImplemented, Refusal.headers, r.message⟩

def Catalog.reply (c : Catalog) (method target : String) : Reply :=
  match c.answer method target with
  | .ok f => f.reply
  | .error r => r.reply

/-! ## Handling -/

/-- What came of a request: the reply, the console after it, and the events on the way. -/
structure Handled where
  reply : Reply
  console : Console
  events : List Event

def handle (c : Catalog) (console : Console) (method target : String) : Handled :=
  match c.answer method target with
  | .ok f => ⟨f.reply, console, c.answerEvents method target ++ [.answered method target]⟩
  | .error r =>
    match r with
    | .unmapped _ =>
      let (console, events) := console.report r.message
      ⟨r.reply, console, events ++ [.unmapped method target]⟩
    | .unsupported _ => ⟨r.reply, console, [.unsupported method target]⟩

/-! ## Requests as text -/

/-- A request as it is put to the server in process. The headers and the body play no part. -/
structure Request where
  method : String
  uri : String
  headers : List (String × String)
  body : String

/-- Why a request is rejected before it is handled. -/
inductive RequestError where
  | invalidMethod
  | invalidUri (cause : UriError)
  deriving DecidableEq

def RequestError.message : RequestError → String
  | .invalidMethod => "invalid HTTP method"
  | .invalidUri cause => cause.message

/-- The method and the target of a request; the method is looked at first. -/
def Request.resolve (r : Request) : Except RequestError (Method × String) :=
  match Method.ofString? r.method with
  | none => .error .invalidMethod
  | some m =>
    match Uri.parse r.uri with
    | .error e => .error (.invalidUri e)
    | .ok u => .ok (m, u.target)

def exchange (c : Catalog) (console : Console) (r : Request) : Except RequestError Handled := do
  let (m, target) ← r.resolve
  return handle c console m.name target

/-- Puts requests to the server one after the other. A rejected one leaves no trace. -/
def exchangeAll (c : Catalog) (console : Console) :
    List Request → List (Except RequestError Handled)
  | [] => []
  | r :: rest =>
    let result := exchange c console r
    let console := match result with
      | .ok handled => handled.console
      | .error _ => console
    result :: exchangeAll c console rest

end StubHttp
