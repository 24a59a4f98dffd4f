import StubHttp.Handler
import StubHttp.Http.Rejection

/-!
# Connections

What goes over the wire. The server reads one head from what the client has
sent and answers it, in the version of the request and without a body if only
the head was asked for. Every answer closes the connection, so whatever follows
the head is never read.

Not every head reaches the handler. A malformed one, or one whose URI or body
length makes no sense, is answered by the connection itself with an empty
reply (`Rejection.response`). A client that stops before its head is complete
gets no answer, and neither does one that begins in another version of the
protocol.
-/

namespace StubHttp.Http

/-- An answer as it goes over the wire, its date left aside. -/
structure Response where
  version : Version
  code : Nat
  reason : String
  headers : List (String × String)
  body : String
  deriving DecidableEq

def Response.statusLine (r : Response) : String :=
  r.version.name ++ " " ++ toString r.code ++ " " ++ r.reason

/-- The answer as it is sent, with the date that goes with it. -/
def Response.print (r : Response) (date : String) : String :=
  let headers := (r.headers ++ [("date", date)]).map fun (name, value) => name ++ ": " ++ value
  String.join ((r.statusLine :: headers).map (· ++ "\r\n")) ++ "\r\n" ++ r.body

/-- A reply to a request of the given version and method. -/
def Reply.respond (r : Reply) (version : Version) (method : Method) : Response :=
  ⟨version, r.status.code, r.status.reason, r.headers, if method.isHead then "" else r.body⟩

/-! ## Rejections -/

def Rejection.response (r : Rejection) : Response :=
  let (code, reason) := match r with
    | .badRequest => (400, "Bad Request")
    | .uriTooLong => (414, "URI Too Long")
    | .tooLarge => (431, "Request Header Fields Too Large")
  ⟨.http11, code, reason, [("connection", "close"), ("content-length", "0")], ""⟩

/-! ## One connection -/

/-- How a client begins that speaks another version of the protocol. -/
def otherProtocol : List Char := "PRI * HTTP/2.0\r\n\r\nSM\r\n\r\n".toList

/-- Whether an answer does not depend on what else a client sends. -/
def isSettled (raw : String) : Bool :=
  match Head.read raw.toList with
  | .error .incomplete => false
  | _ => raw.toList = otherProtocol || !raw.toList.isPrefixOf otherProtocol

/-- What a client gets, and what is left behind on the console and in the log. -/
structure Served where
  response : Option Response
  console : Console
  events : List Event

/-- Serves one connection on which a client has sent `raw` and sends no more. -/
def serveConnection (c : Catalog) (console : Console) (raw : String) : Served :=
  let silent : Served := ⟨none, console, []⟩
  let reject (r : Rejection) : Served := ⟨some r.response, console, []⟩
  match Head.read raw.toList with
  | .error .incomplete => silent
  | .error .malformed =>
    if otherProtocol.isPrefixOf raw.toList then silent else reject .badRequest
  | .error .tooManyHeaders => reject .tooLarge
  | .ok (head, _) =>
    match head.target with
    | .error r => reject r
    | .ok target =>
      let handled := handle c console head.method.name target
      ⟨some (handled.reply.respond head.version head.method), handled.console, handled.events⟩

end StubHttp.Http
