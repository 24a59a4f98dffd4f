import StubHttp.Proofs.Server

/-!
# Second binds and restarts

A server that has been started holds its place (`holds_of_start`): nobody else
can be bound there while its socket listens, a server set up anew can be once
the socket is closed, and is then the same server. So a second bind fails, a
restart succeeds in the same place, and neither of them changes the server
(`step_bindAgain`, `step_restart`). A request changes its sinks alone, and hence
no step takes its place away from it (`Server.Holds.step`).

For its clients the server is the same then as if nobody had touched it: left
with the requests alone, a run gives the same results, the same servers and the
same events (`run_requests`), and ends with the same sinks (`run_undisturbed`).
-/

namespace StubHttp

open Net

/-! ## One step -/

namespace Server

/-- A server that can be replaced where it is: its endpoint can be bound whenever no socket listens
there, and only then; it is what it would be if it were set up anew; and it ends when it is told. -/
structure Holds (host : Host) (s : Server) : Prop where
  rebinds : ∀ inUse, host.bind inUse s.endpoint
    = if s.endpoint ∈ inUse then .error .addressInUse else .ok s.endpoint
  renewed : s.bound = s.setup.behind ⟨s.endpoint, s.setup.config.backlog⟩
  stops : s.stop host = .ok (.stopped, [.stoppedOn s.endpoint])

variable {host : Host} {s : Server}

theorem holds_of_start (hserving : host.serving = .ok ()) {server : HttpServer} {sinks : Sinks}
    {opening : List Event} (h : server.start host sinks .whenTold = .ok (s, opening)) :
    s.Holds host ∧ s.setup = server ∧ s.sinks = sinks := by
  obtain ⟨⟨bound, events⟩, hlaunch, hstart⟩ := bind_eq_ok_iff.mp h
  cases pure_eq_ok_iff.mp hstart
  obtain ⟨e, hsocket, rfl, -⟩ := HttpServer.launch_eq_ok hlaunch
  rw [Host.bindSocket_reusing] at hsocket
  have hstops : (server.behind ⟨e, server.config.backlog⟩).stop .whenTold host.serving
      = .ok (.stopped, [.stoppedOn e]) := by
    rw [hserving]
    rfl
  exact ⟨⟨Host.bind_of_bound hsocket, rfl, hstops⟩, rfl, rfl⟩

theorem Holds.withSinks (h : s.Holds host) (sinks : Sinks) :
    ({ s with sinks } : Server).Holds host :=
  ⟨h.rebinds, h.renewed, h.stops⟩

theorem Holds.listener (h : s.Holds host) : s.bound.listener.endpoint = s.endpoint :=
  congrArg (·.listener.endpoint) h.renewed

theorem step_bindAgain (h : s.Holds host) :
    s.step host .bindAgain = (.failed (.bind s.endpoint .addressInUse), some s, []) := by
  have hrefused : host.bindSocket s.bound.listener.whileOpen ⟨s.endpoint.family, true⟩ s.endpoint
      = .error .addressInUse := by
    rw [Host.bindSocket_reusing, h.rebinds, Listener.whileOpen, h.listener,
      if_pos (List.mem_singleton_self _)]
  rw [step, HttpServer.bind_of_refused (s.setup.anew s.endpoint) hrefused]
  rfl

theorem step_restart (h : s.Holds host) :
    s.step host .restart = (.restarted .stopped true, some s,
      [.stoppedOn s.endpoint, .boundTo s.endpoint, .servingOn s.endpoint]) := by
  have hfree : host.bindSocket s.bound.listener.onceClosed ⟨s.endpoint.family, true⟩ s.endpoint
      = .ok s.endpoint := by
    rw [Host.bindSocket_reusing, h.rebinds, Listener.onceClosed, if_neg List.not_mem_nil]
  have hsame : (s.setup.anew s.endpoint).behind ⟨s.endpoint, s.setup.config.backlog⟩ = s.bound :=
    (HttpServer.behind_anew ..).trans h.renewed.symm
  have hlaunch : (s.setup.anew s.endpoint).launch (host.bindSocket s.bound.listener.onceClosed)
      = .ok (s.bound, [.boundTo s.endpoint, .servingOn s.endpoint]) := by
    rw [HttpServer.launch_of_bound (s.setup.anew s.endpoint) hfree]
    exact congrArg (fun bound => Except.ok (bound, _)) hsame
  rw [step, h.stops]
  dsimp only
  rw [hlaunch]
  simp [endpoint]

/-- A request changes nothing but what the sinks hold. -/
theorem step_request (host : Host) (s : Server) (raw : String) :
    ∃ result sinks events,
      s.step host (.request raw) = (result, some { s with sinks }, events) := by
  rw [step]
  split
  · exact ⟨_, _, _, rfl⟩
  · exact ⟨_, s.sinks, _, rfl⟩

/-- No step takes a server away from its place, or changes what it answers from. -/
theorem Holds.step (h : s.Holds host) (step : Step) :
    ∃ result sinks events, s.step host step = (result, some { s with sinks }, events) := by
  cases step with
  | request raw => exact step_request host s raw
  | bindAgain => exact ⟨_, s.sinks, _, step_bindAgain h⟩
  | restart => exact ⟨_, s.sinks, _, step_restart h⟩

/-! ## Runs -/

/-- The server that a run ends with. -/
def after (host : Host) (s : Server) (steps : List Step) : Server :=
  ((s.run host steps).map (·.2.1)).getLastD s

section
variable {step : Step} {result : StepResult} {next : Server} {events : List Event}

theorem run_cons (h : s.step host step = (result, some next, events)) (steps : List Step) :
    s.run host (step :: steps) = (result, next, events) :: next.run host steps := by
  rw [run, h]

theorem after_cons (h : s.step host step = (result, some next, events)) (steps : List Step) :
    s.after host (step :: steps) = next.after host steps := by
  rw [after, run_cons h, List.map_cons, List.getLastD_cons, after]

end

/-- In a run too only the sinks change. -/
theorem Holds.after : ∀ (steps : List Step) {s : Server}, s.Holds host →
    ∃ sinks, s.after host steps = { s with sinks }
  | [], s, _ => ⟨s.sinks, rfl⟩
  | step :: steps, s, h => by
      obtain ⟨result, sinks, events, hstep⟩ := h.step step
      obtain ⟨sinks', hrest⟩ := Holds.after steps (h.withSinks sinks)
      exact ⟨sinks', by rw [after_cons hstep, hrest]⟩

/-- Every step of a run is taken by the server that those before it have left. -/
theorem Holds.getElem?_run : ∀ {steps : List Step} {s : Server}, s.Holds host →
    ∀ {i : Nat} {step : Step}, steps[i]? = some step → ∀ {result next events},
      (s.after host (steps.take i)).step host step = (result, some next, events) →
        (s.run host steps)[i]? = some (result, next, events)
  | [], _, _, _, _, hi, _, _, _, _ => by simp at hi
  | first :: steps, s, _, 0, _, hi, _, _, _, hstep => by
      obtain rfl := Option.some.inj hi
      have htaken : s.step host first = _ := hstep
      rw [run_cons htaken, List.getElem?_cons_zero]
  | first :: steps, s, h, i + 1, step, hi, _, _, _, hstep => by
      obtain ⟨_, sinks, _, hfirst⟩ := h.step first
      rw [List.take_succ_cons, after_cons hfirst] at hstep
      rw [run_cons hfirst, List.getElem?_cons_succ]
      exact (h.withSinks sinks).getElem?_run (i := i) hi hstep

end Server

/-- Whether a client connects in a step. -/
def Step.isRequest : Step → Bool
  | .request _ => true
  | .bindAgain | .restart => false

namespace Server

variable {host : Host}

/-- The requests of a run are answered as if they were the whole run. -/
theorem run_requests : ∀ (steps : List Step) {s : Server}, s.Holds host →
    ((steps.zip (s.run host steps)).filter (·.1.isRequest)).map (·.2)
      = s.run host (steps.filter Step.isRequest)
  | [], _, _ => rfl
  | .request raw :: steps, s, h => by
      obtain ⟨result, sinks, events, hstep⟩ := step_request host s raw
      have hrest := run_requests steps (h.withSinks sinks)
      rw [List.filter_cons_of_pos rfl, run_cons hstep, run_cons hstep]
      exact congrArg ((result, _, events) :: ·) hrest
  | .bindAgain :: steps, s, h => by
      rw [run_cons (step_bindAgain h)]
      exact run_requests steps h
  | .restart :: steps, s, h => by
      rw [run_cons (step_restart h)]
      exact run_requests steps h

theorem after_requests : ∀ (steps : List Step) {s : Server}, s.Holds host →
    s.after host steps = s.after host (steps.filter Step.isRequest)
  | [], _, _ => rfl
  | .request raw :: steps, s, h => by
      obtain ⟨result, sinks, events, hstep⟩ := step_request host s raw
      rw [List.filter_cons_of_pos rfl, after_cons hstep, after_cons hstep,
        after_requests steps (h.withSinks sinks)]
  | .bindAgain :: steps, s, h => by
      rw [after_cons (step_bindAgain h)]
      exact after_requests steps h
  | .restart :: steps, s, h => by
      rw [after_cons (step_restart h)]
      exact after_requests steps h

end Server

/-- Whatever happens to a server between requests, on a machine whose transport keeps its promise to
end without an error: a second bind fails and tells the endpoint that is in use, a restart ends the
old server cleanly and has the new one listen in the same place, with the same catalog and the same
sink, and both leave everything as they found it. The requests are answered, and the sinks are left,
as if there had been nothing but requests. -/
theorem run_undisturbed {host : Host} (hserving : host.serving = .ok ()) {server : HttpServer}
    {sinks : Sinks} {s : Server} {opening : List Event}
    (hs : server.start host sinks .whenTold = .ok (s, opening)) (steps : List Step) :
    (∀ i : Nat, steps[i]? = some .bindAgain → (s.run host steps)[i]?
        = some (.failed (.bind s.endpoint .addressInUse), s.after host (steps.take i), [])) ∧
    (ServerError.bind s.endpoint .addressInUse).message
      = "Failed to bind " ++ s.endpoint.print ++ ": Address already in use (os error 98)" ∧
    (∀ i : Nat, steps[i]? = some .restart → (s.run host steps)[i]?
        = some (.restarted .stopped true, s.after host (steps.take i),
          [.stoppedOn s.endpoint, .boundTo s.endpoint, .servingOn s.endpoint])) ∧
    (s.after host steps).bound = ⟨⟨s.endpoint, server.config.backlog⟩, s.endpoint,
      ⟨server.catalog, server.diagnostics⟩⟩ ∧
    ((steps.zip (s.run host steps)).filter (·.1.isRequest)).map (·.2.1)
      = (s.run host (steps.filter Step.isRequest)).map (·.1) ∧
    (s.after host steps).sinks = (s.after host (steps.filter Step.isRequest)).sinks := by
  obtain ⟨hholds, hsetup, -⟩ := Server.holds_of_start hserving hs
  refine ⟨fun i hi => ?_, ServerError.message_addressInUse _, fun i hi => ?_, ?_, ?_, ?_⟩
  · obtain ⟨sinks', hbefore⟩ := hholds.after (steps.take i)
    have hstep := Server.step_bindAgain (hholds.withSinks sinks')
    rw [← hbefore] at hstep
    rw [hholds.getElem?_run hi hstep, hbefore]
    rfl
  · obtain ⟨sinks', hbefore⟩ := hholds.after (steps.take i)
    have hstep := Server.step_restart (hholds.withSinks sinks')
    rw [← hbefore] at hstep
    rw [hholds.getElem?_run hi hstep, hbefore]
    rfl
  · obtain ⟨sinks', hafter⟩ := hholds.after steps
    rw [hafter, ← hsetup]
    exact hholds.renewed
  · rw [← Server.run_requests steps hholds, List.map_map]
    rfl
  · rw [Server.after_requests steps hholds]

/-- A server that was handed its port, and a sink with room for part of one line: what the limit
cuts off is the same without the steps between the two requests. -/
theorem run_undisturbed_limited :
    let host : Host := { Host.isolated with reachable := true }
    let server : HttpServer :=
      (HttpServer.new ⟨.v4 .loopback 0, 1⟩ .builtIn).withDiagnostics .supplied
    let sinks : Sinks := ⟨.empty .unlimited, .empty (.limited (some 20) (some 3))⟩
    let e : Endpoint := .v4 .loopback 32768
    let s : Server := ⟨server, server.behind ⟨e, 1⟩, .whenTold, sinks⟩
    let unmapped : Step := .request "GET /é HTTP/1.0\n\n"
    let refused : Step := .request "POST / HTTP/1.1\n\n"
    let steps := [.bindAgain, unmapped, .restart, .bindAgain, refused, .restart]
    Server.start host ⟨.v4 .loopback 0, 1⟩ .builtIn sinks.supplied true = .ok s ∧
    host.serving = .ok () ∧
    server.start host sinks .whenTold = .ok (s, [.boundTo e, .servingOn e]) ∧
    (s.run host steps)[3]?
      = some (.failed (.bind e .addressInUse), s.after host (steps.take 3), []) ∧
    (s.run host steps)[5]? = some (.restarted .stopped true, s.after host (steps.take 5),
      [.stoppedOn e, .boundTo e, .servingOn e]) ∧
    (s.after host steps).bound = ⟨⟨e, 1⟩, e, ⟨.builtIn, .supplied⟩⟩ ∧
    (s.after host steps).sinks = (s.after host [unmapped, refused]).sinks := by
  intro host server sinks e s unmapped refused steps
  have hs : server.start host sinks .whenTold = .ok (s, [.boundTo e, .servingOn e]) := rfl
  obtain ⟨hbind, -, hrestart, hbound, -, hsinks⟩ := run_undisturbed rfl hs steps
  exact ⟨rfl, rfl, hs, hbind 3 rfl, hrestart 5 rfl, hbound, hsinks⟩

end StubHttp
