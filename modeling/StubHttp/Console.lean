import StubHttp.Event
import StubHttp.Text.Bytes

/-!
# The console

Diagnostics are written to a console, line by line. What happens to the bytes
depends on the sink behind it: one that takes everything, one that cannot be
flushed, one that takes a limited number of bytes, or one that has been
poisoned and is no longer written to. A line that cannot be written in full
leaves behind the bytes that could.

A piece is written in calls, each of which offers what is left of it, until all
has been taken or a call takes nothing (`Sink.acceptsWithin`). A line and its
line feed are separate pieces.
-/

namespace StubHttp

inductive Sink where
  | unlimited
  /-- Takes everything, but fails to flush. -/
  | unflushable
  /-- Takes `limit` bytes in all and `chunk` bytes in one call; no number is no limit. -/
  | limited (limit chunk : Option Nat)
  | poisoned
  deriving DecidableEq

namespace Sink

/-- How many of the bytes offered one call takes, after `held` bytes have been taken. -/
def accepts (s : Sink) (held offered : Nat) : Nat :=
  match s with
  | .unlimited | .unflushable => offered
  | .limited limit chunk =>
    let room := limit.elim offered (min offered <| · - held)
    chunk.elim room (min room)
  | .poisoned => 0

/-- How many of the bytes offered are taken in at most `calls` calls. -/
def acceptsWithin (s : Sink) : (calls held offered : Nat) → Nat
  | 0, _, _ => 0
  | calls + 1, held, offered =>
    let n := s.accepts held offered
    if n = 0 then 0 else n + s.acceptsWithin calls (held + n) (offered - n)

end Sink

/-- A sink and the bytes it has taken so far. -/
structure Console where
  sink : Sink
  content : List UInt8
  deriving DecidableEq

/-- Why a line is not on the console in full. -/
inductive WriteError where
  | full
  | notFlushed
  deriving DecidableEq

def WriteError.message : WriteError → String
  | .full => "sink full"
  | .notFlushed => "flush failed"

namespace Console

def empty (sink : Sink) : Console :=
  ⟨sink, []⟩

/-- Writes a piece. Each call but the last takes at least one byte, so there are never more
calls than bytes. -/
def write (c : Console) (bytes : List UInt8) : Except WriteError Unit × Console :=
  let n := c.sink.acceptsWithin bytes.length c.content.length bytes.length
  (if n < bytes.length then .error .full else .ok (),
    { c with content := c.content ++ bytes.take n })

def flush (c : Console) : Except WriteError Unit :=
  match c.sink with
  | .unflushable => .error .notFlushed
  | _ => .ok ()

/-- Writes a line and its line feed, and flushes them. -/
def writeLine (c : Console) (line : String) : Except WriteError Unit × Console :=
  match c.write (Text.encode line) with
  | (.error e, c) => (.error e, c)
  | (.ok (), c) =>
    match c.write (Text.encode "\n") with
    | (.error e, c) => (.error e, c)
    | (.ok (), c) => (c.flush, c)

/-- Reports a diagnostic line, and tells the log if it is not on the console in full. -/
def report (c : Console) (line : String) : Console × List Event :=
  if c.sink = .poisoned then (c, [.dropped line])
  else
    match c.writeLine line with
    | (.ok (), c) => (c, [])
    | (.error e, c) => (c, [.unwritten e.message])

def text (c : Console) : String :=
  Text.decode c.content

/-- What the console has taken since it was `before`, as text. -/
def growthSince (c before : Console) : String :=
  Text.decode (c.content.drop before.content.length)

end Console

end StubHttp
