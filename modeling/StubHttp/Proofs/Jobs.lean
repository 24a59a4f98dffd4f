import StubHttp.Program
import StubHttp.Proofs.CommandLine.Words
import StubHttp.Proofs.ListenHost
import StubHttp.Proofs.Server

/-!
# What a command line comes to

A command line comes to one of three things (`ofWords_cases`): the program
serves, which it also does without a command (`Serves`), it prints the list, or
the words are not carried out. Only in the first case is anything bound, and
only if the host is the text of an address (`Serves.binds_iff`). A run for which
nothing is bound is the same wherever binding would have led
(`BindsNothing.runWith_eq`).
-/

namespace StubHttp

open CommandLine Net

/-! ## Command lines that serve -/

namespace CommandLine

/-- A command that has been read is not none. -/
theorem command_ne_noCommand {name : String} {topic : Topic} (h : Topic.ofName? name = some topic)
    (words : List String) : command topic words ≠ .ok .noCommand := by
  intro hnone
  cases topic with
  | program =>
      rw [Topic.ofName?] at h
      split_ifs at h <;> cases h
  | serve =>
      obtain ⟨_, -, hserve⟩ := bind_eq_ok_iff.mp hnone
      cases hserve
  | routes =>
      obtain ⟨_, -, hroutes⟩ := bind_eq_ok_iff.mp hnone
      cases hroutes
  | help =>
      obtain ⟨_, -, hhelp⟩ := bind_eq_ok_iff.mp hnone
      cases hhelp

/-- There is no command if there are no words, or none but two dashes. -/
theorem parse_eq_noCommand_iff {words : List String} :
    parse words = .ok .noCommand ↔ words = [] ∨ words = ["--"] := by
  constructor
  · intro h
    cases words with
    | nil => exact .inl rfl
    | cons w rest =>
        unfold parse at h
        dsimp only at h
        split at h
        · next topic hname => exact absurd h (command_ne_noCommand hname rest)
        · split at h
          · next hdashes =>
            split at h
            · exact .inr (by rw [Word.ofString_eq_dashes_iff.mp hdashes])
            · cases h
          · split at h
            · split_ifs at h
            · split_ifs at h
          · split at h <;> cases h
          · cases h
  · rintro (rfl | rfl)
    · rfl
    · rfl

end CommandLine

/-- A command line that has the program serve, with these options: one with the command to serve, or
one without any command. -/
inductive Serves : List String → ServeOptions → Prop
  | command {words : List String} {options : ServeOptions} :
      parse words = .ok (.serve options) → Serves words options
  | nothing : Serves [] .default
  | dashes : Serves ["--"] .default

theorem Serves.ofWords {words : List String} {options : ServeOptions} (h : Serves words options) :
    Job.ofWords words = .ofOptions options := by
  cases h with
  | command h => rw [Job.ofWords, h]
  | nothing => rfl
  | dashes => rfl

/-- What is printed, or the failure, for words that are not carried out. -/
def CommandLine.Stop.job : Stop → Job
  | .help topic => .print topic.helpText
  | .version => .print versionText
  | .invalid e => .fail (.usage e)

theorem ofWords_of_stop {words : List String} {stop : Stop} (h : parse words = .error stop) :
    Job.ofWords words = stop.job := by
  rw [Job.ofWords, h]
  cases stop <;> rfl

theorem ofWords_of_routes {words : List String} (h : parse words = .ok .routes) :
    Job.ofWords words = .print Catalog.builtIn.listing := by
  rw [Job.ofWords, h]

theorem ofWords_cases (words : List String) :
    (∃ options, Serves words options) ∨ parse words = .ok .routes ∨
      ∃ stop, parse words = .error stop := by
  cases h : parse words with
  | error stop => exact .inr (.inr ⟨stop, rfl⟩)
  | ok invocation =>
      cases invocation with
      | noCommand =>
          rcases parse_eq_noCommand_iff.mp h with rfl | rfl
          · exact .inl ⟨_, .nothing⟩
          · exact .inl ⟨_, .dashes⟩
      | serve options => exact .inl ⟨options, .command h⟩
      | routes => exact .inr (.inl rfl)

/-! ## What is bound -/

/-- A command line for which the program binds nothing. -/
def BindsNothing (words : List String) : Prop :=
  ∀ e, Job.ofWords words ≠ .serve e

section
variable {host : Host} {binding : Endpoint → Except IoError Endpoint} {words requests : List String}
  {options : ServeOptions} {ip : Address}

/-- The place that is bound has the address that the host is the text of, and the port asked for. -/
theorem Serves.binds_iff (h : Serves words options) {e : Endpoint} :
    Job.ofWords words = .serve e ↔
      ∃ ip, listenAddress options.host = .ok ip ∧ e = .ofAddress ip options.port := by
  rw [h.ofWords, Job.ofOptions, ServeOptions.endpoint]
  cases listenAddress options.host with
  | error e => exact ⟨nofun, nofun⟩
  | ok ip =>
      constructor
      · intro hserve
        cases hserve
        exact ⟨ip, rfl, rfl⟩
      · rintro ⟨_, hip, rfl⟩
        cases hip
        rfl

theorem Serves.ofWords_of_address (h : Serves words options)
    (hip : listenAddress options.host = .ok ip) :
    Job.ofWords words = .serve (.ofAddress ip options.port) :=
  h.binds_iff.mpr ⟨ip, hip, rfl⟩

theorem Serves.ofWords_of_badHost (h : Serves words options)
    (hbad : ∀ ip, listenAddress options.host ≠ .ok ip) :
    Job.ofWords words = .fail (.host ⟨options.host⟩) := by
  rw [h.ofWords, Job.ofOptions, ServeOptions.endpoint]
  cases hhost : listenAddress options.host with
  | error e =>
      obtain rfl := listenAddress_eq_error hhost
      rfl
  | ok ip => exact absurd hhost (hbad ip)

theorem Serves.bindsNothing_of_badHost (h : Serves words options)
    (hbad : ∀ ip, listenAddress options.host ≠ .ok ip) : BindsNothing words := by
  intro e
  rw [h.ofWords_of_badHost hbad]
  nofun

theorem bindsNothing_of_routes (h : parse words = .ok .routes) : BindsNothing words := by
  intro e
  rw [ofWords_of_routes h]
  nofun

theorem bindsNothing_of_stop {stop : Stop} (h : parse words = .error stop) :
    BindsNothing words := by
  intro e
  rw [ofWords_of_stop h]
  cases stop <;> nofun

theorem runWith_of_print {text : String} (h : Job.ofWords words = .print text) :
    runWith host binding words requests = .printed text := by
  simp only [runWith, h]

theorem runWith_of_fail {failure : Failure} (h : Job.ofWords words = .fail failure) :
    runWith host binding words requests = .failed failure := by
  simp only [runWith, h]

theorem runWith_of_bound {e bound : Endpoint} (h : Job.ofWords words = .serve e)
    (hbound : binding e = .ok bound) :
    runWith host binding words requests = .served host (.builtIn e
      ((HttpServer.builtIn e).behind ⟨bound, ServerConfig.default.backlog⟩)) [.boundTo bound]
      requests := by
  have hbind : (HttpServer.builtIn e).bind (fun _ => binding) = _ :=
    HttpServer.bind_of_bound _ hbound
  simp only [runWith, h, hbind]
  rfl

theorem runWith_of_unbound {e : Endpoint} {cause : IoError} (h : Job.ofWords words = .serve e)
    (hcause : binding e = .error cause) :
    runWith host binding words requests = .failed (.startup e (.bind e cause)) := by
  have hbind : (HttpServer.builtIn e).bind (fun _ => binding) = _ :=
    HttpServer.bind_of_refused _ hcause
  simp only [runWith, h, hbind]
  rfl

theorem BindsNothing.runWith_eq (h : BindsNothing words)
    (binding' : Endpoint → Except IoError Endpoint) :
    runWith host binding words requests = runWith host binding' words requests := by
  rw [runWith, runWith]
  split
  · rfl
  · rfl
  · next e hserve => exact absurd hserve (h e)

end

end StubHttp
