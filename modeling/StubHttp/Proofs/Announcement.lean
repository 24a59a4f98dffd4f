import StubHttp.Proofs.Connection
import StubHttp.Proofs.Jobs
import StubHttp.Proofs.Listing

/-!
# Announcing a server

What a run prints is its announcement, the lines of unmapped targets and
nothing else (`Server.mem_transcript`, `banner_mem_served`), and no banner is
such a line. So a banner is printed once a server has been bound, with the port
that it has been bound to, and never otherwise (`announces_iff_bound`).
-/

namespace StubHttp

open CommandLine Net

/-! ## What is printed -/

/-- A banner is no diagnostic line. -/
theorem Catalog.banner_ne_unmapped (c : Catalog) (e : Endpoint) (target : String) :
    c.banner e ≠ (Refusal.unmapped target).message ++ "\n" := by
  have hbanner : (c.banner e).toList.head? = some 'S' := by
    have hstart : "Starting HTTP server on http://localhost:".toList.head? = some 'S' := by
      decide +kernel
    rw [banner_eq, String.append_assoc, String.append_assoc, String.toList_append,
      List.head?_append, hstart, Option.some_or]
  have hline : ((Refusal.unmapped target).message ++ "\n").toList.head? = some 'N' := by
    have hstart : "No mapping for ".toList.head? = some 'N' := by decide +kernel
    have hmessage : (Refusal.unmapped target).message = "No mapping for " ++ target := rfl
    rw [hmessage, String.append_assoc, String.toList_append, List.head?_append, hstart,
      Option.some_or]
  intro h
  rw [h, hline] at hbanner
  cases hbanner

theorem Console.growthSince_append (c : Console) (s : String) :
    Console.growthSince { c with content := c.content ++ Text.encode s } c = s := by
  rw [growthSince, List.drop_left, Text.decode_encode]

/-- A connection leaves nothing on a roomy console, or the line of an unmapped target. -/
theorem Http.serveConnection_console_of_roomy {console : Console} (hs : console.sink.Roomy)
    (c : Catalog) (raw : String) :
    (serveConnection c console raw).console = console ∨
      ∃ target, (serveConnection c console raw).console = { console with
        content := console.content
          ++ Text.encode ((Refusal.unmapped target).message ++ "\n") } := by
  rcases serveConnection_cases c console raw with
    hserved | ⟨rejection, hserved⟩ | ⟨head, rest, target, -, -, hserved⟩
  · exact .inl (by rw [hserved])
  · exact .inl (by rw [hserved])
  · rw [hserved]
    rcases handle_cases c console head.method.name target with
      ⟨-, hhandle⟩ | ⟨-, f, -, hhandle⟩ | ⟨-, -, hhandle⟩
    · exact .inl (by rw [hhandle])
    · exact .inl (by rw [hhandle])
    · refine .inr ⟨target, ?_⟩
      rw [hhandle]
      exact congrArg Prod.fst (Console.report_of_roomy hs _)

namespace Server

variable {host : Host} {s : Server} {text : String}

theorem mem_outputOf {s' : Server} {events : List Event} (h : .text text ∈ s.outputOf s' events) :
    text = s'.console.growthSince s.console ∧ text ≠ "" := by
  rw [outputOf, List.mem_append] at h
  rcases h with h | h
  · split_ifs at h with hempty
    · cases h
    · obtain rfl := Output.text.inj (List.mem_singleton.mp h)
      exact ⟨rfl, fun hnil => hempty (by rw [hnil]; rfl)⟩
  · obtain ⟨e, -, he⟩ := List.mem_map.mp h
    cases he

/-- A request leaves the sink of the console as it is, and has at most the line of an unmapped
target printed. -/
theorem exists_step_request (hs : s.console.sink.Roomy) (raw : String) :
    ∃ result console events,
      s.step host (.request raw) = (result, some (s.withConsole console), events) ∧
        console.sink.Roomy ∧ ∀ text, .text text ∈ s.outputOf (s.withConsole console) events →
          ∃ target, text = (Refusal.unmapped target).message ++ "\n" := by
  have hsilent : ∀ {events text}, .text text ∈ s.outputOf s events → False := by
    intro events text h
    obtain ⟨htext, hne⟩ := mem_outputOf h
    rw [Console.growthSince, List.drop_length] at htext
    exact hne htext
  by_cases hreachable : host.reachable
  · have hstep : s.step host (.request raw)
        = (.answered (Http.serveConnection s.catalog s.console raw).response,
          some (s.withConsole (Http.serveConnection s.catalog s.console raw).console),
          (Http.serveConnection s.catalog s.console raw).events) := if_pos hreachable
    refine ⟨_, _, _, hstep, ?_⟩
    rcases Http.serveConnection_console_of_roomy hs s.catalog raw with hsame | ⟨target, hgrown⟩
    · rw [hsame, withConsole_console]
      exact ⟨hs, fun text h => (hsilent h).elim⟩
    · rw [hgrown]
      refine ⟨hs, fun text h => ⟨target, ?_⟩⟩
      rw [(mem_outputOf h).1, console_withConsole, Console.growthSince_append]
  · have hstep : s.step host (.request raw) = (.unreachable, some s, []) := if_neg hreachable
    refine ⟨.unreachable, s.console, [], ?_, hs, ?_⟩
    · rw [hstep, withConsole_console]
    · rw [withConsole_console]
      exact fun text h => (hsilent h).elim

/-- Only the lines of unmapped targets are printed while requests are answered. -/
theorem mem_transcript : ∀ {requests : List String} {s : Server}, s.console.sink.Roomy →
    .text text ∈ s.transcript (s.run host (requests.map .request)) →
      ∃ target, text = (Refusal.unmapped target).message ++ "\n"
  | [], _, _, h => by cases h
  | raw :: requests, s, hs, h => by
      obtain ⟨result, console, events, hstep, hroomy, hprinted⟩ := s.exists_step_request hs raw
      rw [List.map_cons, run, hstep, transcript, List.mem_append] at h
      rcases h with h | h
      · exact hprinted text h
      · exact mem_transcript (s := s.withConsole console) (by rwa [console_withConsole]) h

theorem text_mem_announce {events : List Event} :
    .text text ∈ s.announce events ↔ text = s.catalog.banner s.endpoint := by
  simp [announce, Output.milestone]

theorem text_not_mem_farewell {events : List Event} : .text text ∉ farewell events := by
  simp [farewell, windingUp, Output.milestone, Output.remark]

theorem text_not_mem_breakdown {e : ServerError} : .text text ∉ breakdown e := by
  simp [breakdown, windingUp, Output.remark]

/-- What a server prints as text is its banner, and lines of unmapped targets. -/
theorem text_mem_served {opening : List Event} {requests : List String} :
    .text text ∈ (Run.served host s opening requests).output ↔
      text = s.catalog.banner s.endpoint ∨
        .text text ∈ s.transcript (s.run host (requests.map .request)) := by
  rw [Run.served]
  split
  · simp only [List.mem_append, text_mem_announce, text_not_mem_farewell, or_false]
  · simp only [List.mem_append, text_mem_announce, text_not_mem_breakdown, or_false]

/-- The server of the program reports to the standard output, which takes everything. -/
theorem roomy_builtIn (e : Endpoint) (l : Listener) :
    (builtIn e ((HttpServer.builtIn e).behind l)).console.sink.Roomy :=
  Sink.roomy_unlimited

end Server

/-- A server has the banner printed that shows its port, and no other. -/
theorem banner_mem_served {host : Host} {s : Server} (hs : s.console.sink.Roomy)
    {opening : List Event} {requests : List String} {e : Endpoint} :
    .text (s.catalog.banner e) ∈ (Run.served host s opening requests).output ↔
      e.port = s.endpoint.port := by
  rw [Server.text_mem_served, ← Catalog.banner_eq_iff]
  constructor
  · rintro (hannounced | htranscript)
    · exact hannounced
    · obtain ⟨target, hline⟩ := Server.mem_transcript hs htranscript
      exact absurd hline (Catalog.banner_ne_unmapped _ _ _)
  · exact .inl

/-! ## Words that are not carried out -/

/-- The list begins with its heading. -/
theorem heading_prefix_listing (c : Catalog) :
    "Supported request queries:".toList <+: c.listing.toList := by
  rw [Catalog.toList_listing, List.flatMap_cons, List.append_assoc]
  exact List.prefix_append ..

theorem listing_suffix_banner (c : Catalog) (e : Endpoint) :
    c.listing.toList <:+ (c.banner e).toList := by
  rw [Catalog.banner_eq, String.toList_append]
  exact List.suffix_append ..

theorem CommandLine.Topic.toList_helpText (t : Topic) : t.helpText.toList
    = ([t.about, "", t.usage [], ""] ++ t.details).flatMap fun line => line.toList ++ ['\n'] := by
  have hlineFeed : "\n".toList = ['\n'] := rfl
  simp only [helpText, String.toList_join, List.flatMap_map, String.toList_append, hlineFeed]

/-- Neither a help nor the version has the heading of the list anywhere. -/
theorem CommandLine.Stop.not_heading {stop : Stop} {text : String} (h : stop.job = .print text) :
    ¬ "Supported request queries:".toList <:+: text.toList := by
  cases stop with
  | help topic =>
      cases h
      -- The lines are evaluated one by one, which is much less work than to put them together.
      rw [topic.toList_helpText]
      cases topic <;> decide +kernel
  | version =>
      cases h
      decide +kernel
  | invalid e => cases h

/-! ## Whole runs -/

@[simp] theorem Net.Endpoint.address_ofAddress (ip : Address) (port : UInt16) :
    (ofAddress ip port).address = ip := by
  cases ip <;> rfl

@[simp] theorem Net.Endpoint.port_ofAddress (ip : Address) (port : UInt16) :
    (ofAddress ip port).port = port := by
  cases ip <;> rfl

theorem Failure.report_startup (e : Endpoint) (cause : IoError) :
    (Failure.startup e (.bind e cause)).report =
      explain ("Failed to start fixture server on " ++ e.address.print ++ ":"
        ++ toString e.port.toNat)
        ["Failed to bind " ++ e.print ++ ": " ++ cause.message, cause.message] := rfl

section
variable {host : Host} {binding : Endpoint → Except IoError Endpoint} {words requests : List String}

theorem banner_not_mem_routes (h : parse words = .ok .routes) (e : Endpoint) :
    .text (Catalog.builtIn.banner e) ∉ (runWith host binding words requests).output := by
  rw [runWith_of_print (ofWords_of_routes h)]
  intro hmem
  have hsame := Output.text.inj (List.mem_singleton.mp hmem)
  have hlength := congrArg String.length hsame
  have hlineFeed : "\n".length = 1 := rfl
  rw [Catalog.banner_eq, String.length_append, String.length_append, hlineFeed] at hlength
  omega

/-- Nothing that is printed for words that are not carried out has a list in it. -/
theorem not_listing_of_stop {stop : Stop} {text : String} (h : parse words = .error stop)
    (htext : .text text ∈ (runWith host binding words requests).output) (c : Catalog)
    (e : Endpoint) :
    ¬ c.listing.toList <:+: text.toList ∧ ¬ (c.banner e).toList <:+: text.toList := by
  have hprinted : stop.job = .print text := by
    cases stop with
    | help topic =>
        rw [runWith_of_print (ofWords_of_stop h)] at htext
        rw [Output.text.inj (List.mem_singleton.mp htext)]
        rfl
    | version =>
        rw [runWith_of_print (ofWords_of_stop h)] at htext
        rw [Output.text.inj (List.mem_singleton.mp htext)]
        rfl
    | invalid error =>
        rw [runWith_of_fail (ofWords_of_stop h)] at htext
        cases htext
  have hheading := stop.not_heading hprinted
  have hlisting := (heading_prefix_listing c).isInfix
  have hbanner := (listing_suffix_banner c e).isInfix
  exact ⟨fun h => hheading (hlisting.trans h), fun h => hheading ((hlisting.trans hbanner).trans h)⟩

/-- A banner is printed by a server that has been bound, and by nothing else. -/
theorem banner_mem_iff {e : Endpoint} :
    .text (Catalog.builtIn.banner e) ∈ (runWith host binding words requests).output ↔
      ∃ options ip bound, Serves words options ∧ listenAddress options.host = .ok ip ∧
        binding (.ofAddress ip options.port) = .ok bound ∧ e.port = bound.port := by
  constructor
  · intro h
    rcases ofWords_cases words with ⟨options, hserves⟩ | hroutes | ⟨stop, hstop⟩
    · cases hip : listenAddress options.host with
      | error error =>
          have hbad : ∀ ip, listenAddress options.host ≠ .ok ip := fun ip hok => by
            rw [hip] at hok
            cases hok
          rw [runWith_of_fail (hserves.ofWords_of_badHost hbad)] at h
          cases h
      | ok ip =>
          have hjob := hserves.ofWords_of_address hip
          cases hbound : binding (.ofAddress ip options.port) with
          | error cause =>
              rw [runWith_of_unbound hjob hbound] at h
              cases h
          | ok bound =>
              rw [runWith_of_bound hjob hbound] at h
              exact ⟨options, ip, bound, hserves, hip, hbound,
                (banner_mem_served (Server.roomy_builtIn _ _)).mp h⟩
    · exact absurd h (banner_not_mem_routes hroutes e)
    · exact absurd (List.infix_refl _) (not_listing_of_stop hstop h .builtIn e).2
  · rintro ⟨options, ip, bound, hserves, hip, hbound, hport⟩
    rw [runWith_of_bound (hserves.ofWords_of_address hip) hbound]
    exact (banner_mem_served (Server.roomy_builtIn _ _)).mpr hport

end

/-- A banner is printed if and only if the command line has the program serve, its host is the text
of an address, and the address can be bound with the port asked for; and it shows the port that has
been bound. A host that is no address and a place that cannot be bound are named in a failure.
Neither for the list, which is a banner without its first line, nor for words that are not carried
out is anything bound. -/
theorem announces_iff_bound (host : Host) (binding : Endpoint → Except IoError Endpoint)
    (words requests : List String) :
    let r := runWith host binding words requests
    (∀ e, .text (Catalog.builtIn.banner e) ∈ r.output ↔
      ∃ options ip bound, Serves words options ∧ listenAddress options.host = .ok ip ∧
        binding (.ofAddress ip options.port) = .ok bound ∧ e.port = bound.port) ∧
    (∀ options, Serves words options → (∀ ip, listenAddress options.host ≠ .ok ip) →
      BindsNothing words ∧ r = ⟨1, [], Failure.explain ("Invalid host '" ++ options.host
        ++ "'. Expected an IP address (e.g., 0.0.0.0 or 127.0.0.1)")
        ["invalid IP address syntax"], none, []⟩) ∧
    (∀ options ip cause, Serves words options → listenAddress options.host = .ok ip →
      binding (.ofAddress ip options.port) = .error cause →
      r = ⟨1, [], Failure.explain ("Failed to start fixture server on " ++ ip.print ++ ":"
        ++ toString options.port.toNat)
        ["Failed to bind " ++ (Endpoint.ofAddress ip options.port).print ++ ": " ++ cause.message,
          cause.message], none, []⟩) ∧
    (parse words = .ok .routes → BindsNothing words ∧ r.exitCode = 0 ∧
      ∃ list, r.output = [.text list] ∧
        ∀ e, ∃ first, '\n' ∉ first.toList ∧ Catalog.builtIn.banner e = first ++ "\n" ++ list) ∧
    (∀ stop, parse words = .error stop → BindsNothing words ∧
      ∀ text, .text text ∈ r.output → ∀ (c : Catalog) (e : Endpoint),
        ¬ c.listing.toList <:+: text.toList ∧ ¬ (c.banner e).toList <:+: text.toList) ∧
    (BindsNothing words → ∀ binding', runWith host binding' words requests = r) := by
  intro r
  refine ⟨fun e => banner_mem_iff, ?_, ?_, ?_, ?_, fun h binding' => h.runWith_eq binding⟩
  · intro options hserves hbad
    exact ⟨hserves.bindsNothing_of_badHost hbad,
      runWith_of_fail (hserves.ofWords_of_badHost hbad)⟩
  · intro options ip cause hserves hip hcause
    have hrun : r = .failed _ := runWith_of_unbound (hserves.ofWords_of_address hip) hcause
    rw [hrun, Run.failed, Failure.report_startup, Endpoint.address_ofAddress,
      Endpoint.port_ofAddress]
    rfl
  · intro hroutes
    have hrun : r = .printed _ := runWith_of_print (ofWords_of_routes hroutes)
    rw [hrun]
    refine ⟨bindsNothing_of_routes hroutes, rfl, _, rfl, fun e => ?_⟩
    exact ⟨_, lineFeed_not_mem_firstLine e, Catalog.builtIn.banner_eq e⟩
  · intro stop hstop
    exact ⟨bindsNothing_of_stop hstop, fun text htext => not_listing_of_stop hstop htext⟩

/-- With port zero the port is shown that the machine hands out, and not the one asked for. -/
theorem announces_iff_bound_port_zero :
    let r := runWith .isolated (Host.isolated.bind []) ["serve", "-p", "0"] []
    .text (Catalog.builtIn.banner (.v4 .any 32768)) ∈ r.output ∧
      .text (Catalog.builtIn.banner (.v4 .any 0)) ∉ r.output := by
  intro r
  have hserves : Serves ["serve", "-p", "0"] ⟨"0.0.0.0", 0⟩ := .command rfl
  have hip : listenAddress "0.0.0.0" = .ok (.v4 .any) := by decide
  have hbound : Host.isolated.bind [] (.ofAddress (.v4 .any) 0) = .ok (.v4 .any 32768) := by decide
  obtain ⟨hbanner, -⟩ :=
    announces_iff_bound .isolated (Host.isolated.bind []) ["serve", "-p", "0"] []
  refine ⟨(hbanner _).mpr ⟨_, _, _, hserves, hip, hbound, rfl⟩, fun hzero => ?_⟩
  obtain ⟨options, ip, bound, hserves', hip', hbound', hport⟩ := (hbanner _).mp hzero
  have hjob := (hserves'.ofWords_of_address hip').symm.trans (hserves.ofWords_of_address hip)
  rw [Job.serve.inj hjob, hbound] at hbound'
  obtain rfl := Except.ok.inj hbound'
  exact absurd hport (by decide)

/-- A server is announced for two dashes alone, too, which are neither the command to serve nor
nothing. -/
theorem announces_not_iff_command :
    ¬ ∀ (binding : Endpoint → Except IoError Endpoint) (words : List String) (e : Endpoint),
      .text (Catalog.builtIn.banner e) ∈ (runWith .isolated binding words []).output ↔
        ∃ options ip bound,
          (parse words = .ok (.serve options) ∨ words = [] ∧ options = .default) ∧
          listenAddress options.host = .ok ip ∧
          binding (.ofAddress ip options.port) = .ok bound ∧ e.port = bound.port := by
  intro h
  have hip : listenAddress ServeOptions.default.host = .ok (.v4 .any) := by decide
  have hannounced : .text (Catalog.builtIn.banner (.v4 .any defaultPort))
      ∈ (runWith .isolated .ok ["--"] []).output :=
    banner_mem_iff.mpr ⟨_, _, _, .dashes, hip, rfl, rfl⟩
  obtain ⟨options, -, -, hserve | ⟨hnil, -⟩, -⟩ :=
    (h .ok ["--"] (.v4 .any defaultPort)).mp hannounced
  · cases hserve
  · cases hnil

end StubHttp
