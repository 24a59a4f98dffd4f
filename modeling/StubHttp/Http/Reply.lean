/-!
# Replies

What a handler answers: a status, a body, and the headers that it asks for. The
headers that are sent are more than these. A body that is text has a type of its
own, which stands unless the handler asks for another, and the length of the
body is added in bytes (`Reply.headers`).
-/

namespace StubHttp.Http

inductive Status where
  | ok
  | badRequest
  | internalServerError
  | notImplemented
  deriving DecidableEq

def Status.code : Status → Nat
  | .ok => 200
  | .badRequest => 400
  | .internalServerError => 500
  | .notImplemented => 501

def Status.reason : Status → String
  | .ok => "OK"
  | .badRequest => "Bad Request"
  | .internalServerError => "Internal Server Error"
  | .notImplemented => "Not Implemented"

/-- A header: its name in small letters, and its value. -/
abbrev Header := String × String

/-- Sets a header, in place of those that have its name. -/
def setHeader (headers : List Header) (header : Header) : List Header :=
  headers.filter (·.1 ≠ header.1) ++ [header]

/-- Puts a header in front of those of a later name. -/
def insertByName (header : Header) : List Header → List Header
  | [] => [header]
  | next :: rest =>
    if header.1 ≤ next.1 then header :: next :: rest else next :: insertByName header rest

def sortByName (headers : List Header) : List Header :=
  headers.foldr insertByName []

structure Reply where
  status : Status
  /-- The headers that the handler asks for. -/
  asked : List Header
  body : String
  deriving DecidableEq

def plainText : String := "text/plain; charset=utf-8"

/-- The headers of the reply, in the order of their names. -/
def Reply.headers (r : Reply) : List Header :=
  let typed := r.asked.foldl setHeader [("content-type", plainText)]
  let measured :=
    if typed.any (·.1 = "content-length") then typed
    else setHeader typed ("content-length", toString r.body.utf8ByteSize)
  sortByName measured

end StubHttp.Http
