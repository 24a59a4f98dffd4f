import StubHttp.Proofs.Diagnostics

/-!
# The log of a run

`Traces` tells from the requests of a run, the replies to them and the console
before the first what the run writes to its log and leaves on the console: a
block of events for each request that is answered (`Block`), in the order of
the requests, and nothing for those that are rejected. Whether a block has a
warning about its diagnostic line is told from the sink and from what it has
taken before (`Reported`), and so is what the next request finds there.

Both relations are told without the handler. A request that is handled leaves
the one block that it can (`block_iff`), and hence the log and the console of a
run are those that trace it (`traces_iff`).
-/

namespace StubHttp

open Http

/-! ## One request -/

/-- What an answered request writes to the log and leaves on the console, told from its reply and
from the console before it. -/
inductive Block (c : Catalog) (method target : String) (before : Console) :
    Reply → Console → List Event → Prop
  | found {reply : Reply} {earlier later : List Fixture} {f : Fixture} {bytes : String} :
      reply.status.code = 200 → reply.body = f.body →
      c.fixtures = earlier ++ f :: later → f.path = target → (∀ g ∈ earlier, g.path ≠ target) →
      reply.headers.lookup "content-length" = some bytes →
      Block c method target before reply before
        [⟨.debug, .responder, "fixture matched", [("path", f.path), ("bytes", bytes)]⟩,
          ⟨.debug, .server, "200", [("method", method), ("path", target)]⟩]
  | unmapped {reply : Reply} {after : Console} {warnings : List Event} :
      reply.status.code = 500 → Reported ("No mapping for " ++ target) before after warnings →
      Block c method target before reply after (warnings ++
        [⟨.warn, .server, "no fixture mapped", [("method", method), ("path", target)]⟩])
  | unsupported {reply : Reply} :
      reply.status.code = 501 →
      Block c method target before reply before
        [⟨.warn, .server, "unsupported method", [("method", method), ("path", target)]⟩]

theorem block_handle (c : Catalog) (console : Console) (method target : String) :
    Block c method target console (handle c console method target).reply
      (handle c console method target).console (handle c console method target).events := by
  rcases handle_cases c console method target with
    ⟨-, hhandle⟩ | ⟨-, f, hlookup, hhandle⟩ | ⟨-, -, hhandle⟩
  · rw [hhandle]
    exact .unsupported rfl
  · obtain ⟨hpath, earlier, later, hsplit, hfirst⟩ := Catalog.lookup_eq_some_iff.mp hlookup
    have hlength : f.reply.headers.lookup "content-length" = some (toString f.size) := by
      rw [Reply.headers_of_asked (r := f.reply) rfl]
      rfl
    rw [hhandle]
    exact .found rfl rfl hsplit hpath hfirst hlength
  · rw [hhandle]
    exact .unmapped rfl (reported_iff.mpr ⟨rfl, rfl⟩)

/-- The reply and the console before leave no choice: two blocks of one request are the same. -/
theorem Block.unique {c : Catalog} {method target : String} {before after after' : Console}
    {reply : Reply} {events events' : List Event}
    (h : Block c method target before reply after events)
    (h' : Block c method target before reply after' events') :
    after = after' ∧ events = events' := by
  cases h with
  | found hcode _ _ hpath _ hbytes =>
      cases h' with
      | found _ _ _ hpath' _ hbytes' =>
          rw [hpath, hpath', Option.some.inj (hbytes.symm.trans hbytes')]
          exact ⟨rfl, rfl⟩
      | unmapped hcode' => simp [hcode] at hcode'
      | unsupported hcode' => simp [hcode] at hcode'
  | unmapped hcode hline =>
      cases h' with
      | found hcode' => simp [hcode] at hcode'
      | unmapped _ hline' =>
          obtain ⟨rfl, rfl⟩ := reported_iff.mp hline
          obtain ⟨rfl, rfl⟩ := reported_iff.mp hline'
          exact ⟨rfl, rfl⟩
      | unsupported hcode' => simp [hcode] at hcode'
  | unsupported hcode =>
      cases h' with
      | found hcode' => simp [hcode] at hcode'
      | unmapped hcode' => simp [hcode] at hcode'
      | unsupported _ => exact ⟨rfl, rfl⟩

theorem block_iff {c : Catalog} {method target : String} {console after : Console}
    {events : List Event} :
    Block c method target console (handle c console method target).reply after events ↔
      after = (handle c console method target).console ∧
        events = (handle c console method target).events := by
  refine ⟨fun h => h.unique (block_handle c console method target), ?_⟩
  rintro ⟨rfl, rfl⟩
  exact block_handle c console method target

/-! ## Runs -/

/-- The events of a run, in the order in which they are written. -/
def log (results : List Exchanged) : List Event :=
  results.flatMap fun result =>
    match result with
    | .ok handled => handled.events
    | .error _ => []

/-- What the requests of a run write to the log: nothing if rejected, else a block each, every
request finding the console that those before it have left. -/
inductive Traces (c : Catalog) :
    Console → List Request → List Exchanged → Console → List Event → Prop
  | nil {console : Console} : Traces c console [] [] console []
  | rejected {console final : Console} {r : Request} {e : RequestError} {rs : List Request}
      {results : List Exchanged} {events : List Event} :
      r.resolve = .error e → Traces c console rs results final events →
      Traces c console (r :: rs) (.error e :: results) final events
  | answered {console after final : Console} {r : Request} {m : Method} {target : String}
      {h : Handled} {block : List Event} {rs : List Request} {results : List Exchanged}
      {events : List Event} :
      r.resolve = .ok (m, target) → Block c m.name target console h.reply after block →
      Traces c after rs results final events →
      Traces c console (r :: rs) (.ok h :: results) final (block ++ events)

section
variable {c : Catalog} {console final : Console} {r : Request} {rs : List Request}
  {results : List Exchanged} {events : List Event}

theorem traces_nil_iff : Traces c console [] [] final events ↔ final = console ∧ events = [] := by
  constructor
  · intro h
    cases h
    exact ⟨rfl, rfl⟩
  · rintro ⟨rfl, rfl⟩
    exact .nil

theorem traces_rejected_iff {e : RequestError} (hresolve : r.resolve = .error e) :
    Traces c console (r :: rs) (.error e :: results) final events ↔
      Traces c console rs results final events := by
  refine ⟨fun h => ?_, .rejected hresolve⟩
  cases h with
  | rejected _ hrest => exact hrest

/-- An answered request leaves its block and its console, and the rest goes on from there. -/
theorem traces_answered_iff {m : Method} {target : String}
    (hresolve : r.resolve = .ok (m, target)) :
    Traces c console (r :: rs) (.ok (handle c console m.name target) :: results) final events ↔
      ∃ later, events = (handle c console m.name target).events ++ later ∧
        Traces c (handle c console m.name target).console rs results final later := by
  constructor
  · intro h
    cases h with
    | answered hresolve' hblock hrest =>
        cases hresolve.symm.trans hresolve'
        obtain ⟨rfl, rfl⟩ := block_iff.mp hblock
        exact ⟨_, rfl, hrest⟩
  · rintro ⟨later, rfl, hrest⟩
    exact .answered hresolve (block_iff.mpr ⟨rfl, rfl⟩) hrest

end

/-- The log of a run and the console after it are those that trace it. -/
theorem traces_iff (c : Catalog) (console : Console) (rs : List Request) (final : Console)
    (events : List Event) :
    Traces c console rs (exchangeAll c console rs) final events ↔
      final = console.after (exchangeAll c console rs) ∧
        events = log (exchangeAll c console rs) := by
  induction rs generalizing console events with
  | nil => exact traces_nil_iff
  | cons r rs ih =>
      rw [exchangeAll_cons]
      cases hresolve : r.resolve with
      | error e =>
          rw [exchange_of_rejected hresolve, traces_rejected_iff hresolve]
          exact ih console events
      | ok resolved =>
          obtain ⟨m, target⟩ := resolved
          rw [exchange_of_resolve hresolve, traces_answered_iff hresolve]
          constructor
          · rintro ⟨later, rfl, hrest⟩
            obtain ⟨rfl, rfl⟩ := (ih _ _).mp hrest
            exact ⟨rfl, rfl⟩
          · rintro ⟨rfl, rfl⟩
            exact ⟨_, rfl, (ih _ _).mpr ⟨rfl, rfl⟩⟩

/-- A sink that is full after the first diagnostic: it is delivered, the next one is not. The bytes
of a body are counted, not its characters. -/
example :
    log (exchangeAll ⟨[⟨"/a", "é", ""⟩], by decide⟩ (.empty (.limited (some 18) none))
        [⟨"GET", "/b", [], ""⟩, ⟨"GET", "/a#top", [], ""⟩, ⟨"GET ", "/a", [], ""⟩,
          ⟨"GET", "/c", [], ""⟩, ⟨"HEAD", "/a", [], ""⟩])
      = [.unmapped "GET" "/b",
        ⟨.debug, .responder, "fixture matched", [("path", "/a"), ("bytes", "2")]⟩,
        .answered "GET" "/a", .unwritten "sink full", .unmapped "GET" "/c",
        .unsupported "HEAD" "/a"] := by
  rfl

end StubHttp
