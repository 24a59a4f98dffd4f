import StubHttp.Proofs.Net.Binding
import StubHttp.Server

/-!
# Setting up and binding servers

Binding a server comes down to what the system makes of one socket, which
reuses addresses (`bind_of_bound`, `bind_of_refused`). The server that is bound
is the one behind this socket, with the catalog and the sink that it has been
set up with; and one that is set up anew for another endpoint keeps both
(`behind_anew`).
-/

namespace StubHttp

open Net

theorem ServerError.message_addressInUse (e : Endpoint) :
    (ServerError.bind e .addressInUse).message
      = "Failed to bind " ++ e.print ++ ": Address already in use (os error 98)" := by
  have hcause : ": " ++ IoError.addressInUse.message = ": Address already in use (os error 98)" :=
    by decide
  calc (ServerError.bind e .addressInUse).message
      = "Failed to bind " ++ e.print ++ ": " ++ IoError.addressInUse.message := rfl
    _ = "Failed to bind " ++ e.print ++ ": Address already in use (os error 98)" := by
        rw [String.append_assoc, hcause]

/-! ## Sinks -/

namespace Sinks

@[simp] theorem get_set (sinks : Sinks) (handle : SinkHandle) (console : Console) :
    (sinks.set handle console).get handle = console := by
  cases handle <;> rfl

@[simp] theorem set_get (sinks : Sinks) (handle : SinkHandle) :
    sinks.set handle (sinks.get handle) = sinks := by
  cases handle <;> rfl

end Sinks

namespace Server

@[simp] theorem console_withConsole (s : Server) (console : Console) :
    (s.withConsole console).console = console :=
  Sinks.get_set ..

@[simp] theorem withConsole_console (s : Server) : s.withConsole s.console = s := by
  rw [withConsole, console, Sinks.set_get]

end Server

/-! ## Binding -/

namespace HttpServer

/-- A server set up anew answers from the same catalog and reports to the same sink. -/
theorem behind_anew (server : HttpServer) (e : Endpoint) (l : Listener) :
    (server.anew e).behind l = server.behind l := rfl

section
variable (server : HttpServer) {binding : Binding} {e : Endpoint} {cause : IoError}

theorem bind_of_bound
    (h : binding ⟨server.config.endpoint.family, true⟩ server.config.endpoint = .ok e) :
    server.bind binding
      = .ok (server.behind ⟨e, server.config.backlog⟩, [.boundTo e]) := by
  rw [bind, listenReusable_eq, h]
  rfl

theorem bind_of_refused
    (h : binding ⟨server.config.endpoint.family, true⟩ server.config.endpoint = .error cause) :
    server.bind binding = .error (.bind server.config.endpoint cause) := by
  rw [bind, listenReusable_eq, h]
  rfl

theorem launch_of_bound
    (h : binding ⟨server.config.endpoint.family, true⟩ server.config.endpoint = .ok e) :
    server.launch binding
      = .ok (server.behind ⟨e, server.config.backlog⟩, [.boundTo e, .servingOn e]) := by
  rw [launch, bind_of_bound server h]
  rfl

theorem launch_of_refused
    (h : binding ⟨server.config.endpoint.family, true⟩ server.config.endpoint = .error cause) :
    server.launch binding = .error (.bind server.config.endpoint cause) := by
  rw [launch, bind_of_refused server h]
  rfl

end

/-- A server that has been launched is the one behind the socket that was bound for it. -/
theorem launch_eq_ok {server : HttpServer} {binding : Binding} {bound : BoundServer}
    {events : List Event} (h : server.launch binding = .ok (bound, events)) :
    ∃ e, binding ⟨server.config.endpoint.family, true⟩ server.config.endpoint = .ok e ∧
      bound = server.behind ⟨e, server.config.backlog⟩ ∧ events = [.boundTo e, .servingOn e] := by
  cases hsocket : binding ⟨server.config.endpoint.family, true⟩ server.config.endpoint with
  | error cause =>
      rw [launch_of_refused server hsocket] at h
      cases h
  | ok e =>
      rw [launch_of_bound server hsocket] at h
      cases h
      exact ⟨e, rfl, rfl, rfl⟩

end HttpServer

end StubHttp
