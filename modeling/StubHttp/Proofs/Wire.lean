import StubHttp.Proofs.Connection
import StubHttp.Server

/-!
# The wire and the process

A request can be put to a catalog in process, as a method and a URI, or over a
connection to a server, as a text. For a plain request the two agree: the server
reads from the text the method and the target that were written
(`serveConnection_plainRequest`), hands them to the same `handle`, and sends back
its reply. Only the body may be left out on the way, and only for the method that
asks for the head alone (`step_plainRequest_agrees`).
-/

namespace StubHttp

open Http Net

/-- The answer to a plain request is the reply of the handler, whatever follows the request. -/
theorem serveConnection_plainRequest (c : Catalog) (console : Console) (m : Method)
    {target : String} (ht : IsOriginForm target) (hlength : target.utf8ByteSize ≤ maxUriLength)
    (v : Version) (more : String) :
    serveConnection c console (plainRequest m target v ++ more)
      = ⟨some ((handle c console m.name target).reply.respond v m),
        (handle c console m.name target).console, (handle c console m.name target).events⟩ := by
  have hread : Head.read (plainRequest m target v ++ more).toList
      = .ok (⟨m, target, v, []⟩, more.toList) := by
    rw [String.toList_append]
    exact read_plainRequest m ht v more.toList
  exact serveConnection_of_target hread (target_plainHead m ht hlength v) c console

/-- A plain request over a connection is answered, and leaves on the console and in the log, what
the same request does in process; the one exception is the body of an answer to `HEAD`. -/
theorem step_plainRequest_agrees {host : Host} (hreachable : host.reachable = true) (s : Server)
    (m : Method) {target : String} (ht : IsOriginForm target)
    (hlength : m.name.utf8ByteSize + target.utf8ByteSize ≤ 8000) (v : Version)
    (headers : List (String × String)) (body : String) :
    ∃ handled response,
      exchange s.catalog s.console ⟨m.name, target, headers, body⟩ = .ok handled ∧
      s.step host (.request (plainRequest m target v))
        = (.answered (some response), some (s.withConsole handled.console), handled.events) ∧
      response.statusLine = v.name ++ " " ++ toString handled.reply.status.code ++ " "
        ++ handled.reply.status.reason ∧
      response.headers = handled.reply.headers ∧
      response.body = (if m.name = "HEAD" then "" else handled.reply.body) ∧
      ("content-length", toString handled.reply.body.utf8ByteSize) ∈ response.headers := by
  have hsize : target.utf8ByteSize ≤ maxUriLength :=
    Nat.le_trans (Nat.le_trans (Nat.le_add_left _ _) hlength) (by decide)
  have hresolve : Request.resolve ⟨m.name, target, headers, body⟩ = .ok (m, target) :=
    resolve_eq_ok_iff.mpr
      ⟨ofString?_name m, _, parse_of_slash ht.slash ht.targetBytes hsize, rfl⟩
  have hserved := serveConnection_plainRequest s.catalog s.console m ht hsize v ""
  rw [String.append_empty] at hserved
  refine ⟨handle s.catalog s.console m.name target,
    (handle s.catalog s.console m.name target).reply.respond v m,
    exchange_of_resolve hresolve, ?_, rfl, rfl, ?_, ?_⟩
  · rw [Server.step, if_pos hreachable, hserved]
  · simp [Reply.respond, Method.isHead]
  · rw [handle_reply]
    simp [Reply.respond, headers_reply]

/-- Asking for the head of what is refused: the body is left out, but its length is stated. -/
theorem step_plainRequest_agrees_head :
    let host : Host := { Host.isolated with reachable := true }
    let server : HttpServer := (HttpServer.new .default .builtIn).withDiagnostics .supplied
    let s : Server := ⟨server, server.behind ⟨.v4 .any 52001, 1024⟩, .whenTold,
      ⟨.empty .unlimited, .empty .poisoned⟩⟩
    let m : Method := ⟨"HEAD", by decide⟩
    host.reachable = true ∧ IsOriginForm "/json-1?q=%C3%A9/?" ∧
    m.name.utf8ByteSize + "/json-1?q=%C3%A9/?".utf8ByteSize ≤ 8000 ∧
    ∃ response : Http.Response,
      (s.step host (.request (plainRequest m "/json-1?q=%C3%A9/?" .http10))).1
        = .answered (some response) ∧
      response.statusLine = "HTTP/1.0 501 Not Implemented" ∧ response.body = "" ∧
      ("content-length", "25") ∈ response.headers := by
  intro host server s m
  have ht : IsOriginForm "/json-1?q=%C3%A9/?" := ⟨rfl, List.all_eq_true.mp (by decide)⟩
  have hlength : m.name.utf8ByteSize + "/json-1?q=%C3%A9/?".utf8ByteSize ≤ 8000 := by decide
  obtain ⟨handled, response, hexchange, hstep, hstatus, -, hbody, hmem⟩ :=
    step_plainRequest_agrees (show host.reachable = true from rfl) s m ht hlength .http10 [] ""
  have hreply : handled.reply = (Refusal.unsupported "HEAD").reply := by
    have hresolve : Request.resolve ⟨m.name, "/json-1?q=%C3%A9/?", [], ""⟩
        = .ok (m, "/json-1?q=%C3%A9/?") :=
      resolve_eq_ok_iff.mpr
        ⟨ofString?_name m, _, parse_of_slash ht.slash ht.targetBytes (by decide), rfl⟩
    have hresult : exchange s.catalog s.console ⟨m.name, "/json-1?q=%C3%A9/?", [], ""⟩
        = .ok (handle s.catalog s.console m.name "/json-1?q=%C3%A9/?") :=
      exchange_of_resolve hresolve
    rw [Except.ok.inj (hexchange.symm.trans hresult), handle_reply]
    exact reply_of_unsupported (by decide)
  rw [hreply] at hstatus hmem
  exact ⟨rfl, ht, hlength, response, congrArg Prod.fst hstep, hstatus, hbody, hmem⟩

end StubHttp
