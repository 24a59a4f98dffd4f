import StubHttp.Proofs.Diagnostics

/-!
# Consoles of limited size

A console that takes only so many bytes is at every moment the console that
takes everything, cut off at its limit (`Console.capped`). This holds for a
line (`report_capped`) and for a request (`exchange_capped`): in each case the
two consoles start and end as a pair, and the report fails exactly if the
console without a limit has passed the limit by then. So a run with the limit is
the run without it, seen through `Handled.capped` (`exchangeAll_capped`), and
the size of the calls is nowhere to be seen in it.

What was cut off is a tail. The diagnostics that fail are those that end behind
the limit, and all after them fail too (`limited_console_loses_tail`).
-/

namespace StubHttp

open Http

/-! ## Lines -/

/-- The console that has a limit, where the one without a limit holds `full`. -/
def Console.capped (limit : Nat) (chunk : Option Nat) (full : List UInt8) : Console :=
  ⟨.limited (some limit) chunk, full.take limit⟩

/-- The report fails exactly if the console without a limit has passed the limit by then. -/
theorem Console.report_capped {limit : Nat} {chunk : Option Nat} (hchunk : ∀ n ∈ chunk, 0 < n)
    (full : List UInt8) (line : String) :
    (capped limit chunk full).report line =
      (capped limit chunk (full ++ Text.encode (line ++ "\n")),
        if limit < (full ++ Text.encode (line ++ "\n")).length
          then [.unwritten WriteError.full.message] else []) := by
  have hroom : limit - (full.take limit).length = limit - full.length := by
    rw [List.length_take]
    omega
  have hpassed : limit - full.length < (Text.encode (line ++ "\n")).length
      ↔ limit < (full ++ Text.encode (line ++ "\n")).length := by
    rw [List.length_append, length_encode_line]
    omega
  rw [capped, report_limited (Sink.bounded_limited hchunk), hroom, capped, List.take_append]
  simp only [hpassed]

/-! ## Requests -/

/-- Whether a request was unmapped and its line has gone past the limit. -/
def Handled.Overruns (limit : Nat) (h : Handled) : Prop :=
  h.reply.status.code = 500 ∧ limit < h.console.content.length

instance (limit : Nat) (h : Handled) : Decidable (h.Overruns limit) :=
  inferInstanceAs (Decidable (_ ∧ _))

/-- What comes of a request behind a limit, told from what comes of it without one. -/
def Handled.capped (limit : Nat) (chunk : Option Nat) (h : Handled) : Handled :=
  ⟨h.reply, .capped limit chunk h.console.content,
    (if h.Overruns limit then [.unwritten WriteError.full.message] else []) ++ h.events⟩

section
variable {limit : Nat} {chunk : Option Nat}

/-- A request that is not unmapped leaves no line, so it cannot overrun. -/
theorem Handled.capped_of_code_ne {h : Handled} (hcode : h.reply.status.code ≠ 500) :
    h.capped limit chunk = { h with console := .capped limit chunk h.console.content } := by
  have hfits : ¬h.Overruns limit := fun hover => hcode hover.1
  rw [capped, if_neg hfits, List.nil_append]

theorem handle_capped (hchunk : ∀ n ∈ chunk, 0 < n) (c : Catalog) (full : List UInt8)
    (method target : String) :
    handle c (.capped limit chunk full) method target
      = (handle c ⟨.unlimited, full⟩ method target).capped limit chunk := by
  cases h : c.answer method target with
  | ok f =>
      rw [handle_of_answer h, handle_of_answer h, Handled.capped_of_code_ne]
      exact show f.reply.status.code ≠ 500 from nofun
  | error r =>
      cases r with
      | unsupported method' =>
          rw [handle_of_unsupported h, handle_of_unsupported h, Handled.capped_of_code_ne]
          exact show (Refusal.unsupported method').reply.status.code ≠ 500 from nofun
      | unmapped target' =>
          have hcode : (Refusal.unmapped target').reply.status.code = 500 := rfl
          rw [handle_of_unmapped h, handle_of_unmapped h, Console.report_capped hchunk,
            Console.report_unlimited, Handled.capped]
          simp only [Handled.Overruns, hcode, true_and, List.nil_append]

theorem exchange_capped (hchunk : ∀ n ∈ chunk, 0 < n) (c : Catalog) (full : List UInt8)
    (r : Request) :
    exchange c (.capped limit chunk full) r
      = (exchange c ⟨.unlimited, full⟩ r).map (Handled.capped limit chunk) := by
  rw [exchange, exchange]
  cases r.resolve with
  | error e => rfl
  | ok resolved => exact congrArg Except.ok (handle_capped hchunk c full _ _)

/-! ## Runs -/

theorem after_map_capped : ∀ (results : List Exchanged) (console : Console),
    (Console.capped limit chunk console.content).after
        (results.map (·.map (Handled.capped limit chunk)))
      = .capped limit chunk (console.after results).content
  | [], _ => rfl
  | .error _ :: results, console => after_map_capped results console
  | .ok h :: results, _ => after_map_capped results h.console

/-- A run behind a limit is the run without one, seen through `Handled.capped`. -/
theorem exchangeAll_capped (hchunk : ∀ n ∈ chunk, 0 < n) (c : Catalog) :
    ∀ (rs : List Request) (full : List UInt8),
      exchangeAll c (.capped limit chunk full) rs
        = (exchangeAll c ⟨.unlimited, full⟩ rs).map (·.map (Handled.capped limit chunk))
  | [], _ => rfl
  | r :: rs, full => by
      -- What the first request leaves behind is a pair of consoles again; the rest starts there.
      have hnext : (Console.mk .unlimited full).after [exchange c ⟨.unlimited, full⟩ r]
          = ⟨.unlimited, ((Console.mk .unlimited full).after
              [exchange c ⟨.unlimited, full⟩ r]).content⟩ := by
        rw [exchange_console Sink.roomy_unlimited]
      have hcapped :
          (Console.capped limit chunk full).after [exchange c (.capped limit chunk full) r]
            = .capped limit chunk
              ((Console.mk .unlimited full).after [exchange c ⟨.unlimited, full⟩ r]).content := by
        rw [exchange_capped hchunk]
        exact after_map_capped [exchange c ⟨.unlimited, full⟩ r] ⟨.unlimited, full⟩
      rw [exchangeAll_cons, exchangeAll_cons, hcapped, exchangeAll_capped hchunk c rs, ← hnext,
        exchange_capped hchunk, List.map_cons]

end

/-! ## Complaints -/

/-- Whether the log was told that a diagnostic is not on the console in full. -/
def Handled.Complains (h : Handled) : Prop :=
  ∃ reason, .unwritten reason ∈ h.events

theorem not_complains_of_unlimited (c : Catalog) (full : List UInt8) (method target : String) :
    ¬(handle c ⟨.unlimited, full⟩ method target).Complains := by
  rintro ⟨reason, hmem⟩
  rcases handle_cases c ⟨.unlimited, full⟩ method target with
    ⟨-, hhandle⟩ | ⟨-, f, -, hhandle⟩ | ⟨-, -, hhandle⟩
  · rw [hhandle] at hmem
    simp [Event.unwritten, Event.unsupported, Event.about] at hmem
  · rw [hhandle] at hmem
    simp [Event.unwritten, Event.matched, Event.answered, Event.about] at hmem
  · rw [hhandle, Console.report_unlimited] at hmem
    simp [Event.unwritten, Event.unmapped, Event.about] at hmem

theorem Handled.complains_capped_iff {h : Handled} (hquiet : ¬h.Complains) {limit : Nat}
    {chunk : Option Nat} : (h.capped limit chunk).Complains ↔ h.Overruns limit := by
  constructor
  · rintro ⟨reason, hmem⟩
    rw [capped] at hmem
    split at hmem
    · next hover => exact hover
    · exact absurd ⟨reason, hmem⟩ hquiet
  · intro hover
    refine ⟨WriteError.full.message, ?_⟩
    rw [capped, if_pos hover]
    exact List.mem_cons_self

theorem not_complains_of_mem {c : Catalog} {full : List UInt8} {rs : List Request} {h : Handled}
    (hmem : h ∈ unmappedOnes (exchangeAll c ⟨.unlimited, full⟩ rs)) : ¬h.Complains := by
  obtain ⟨result, hresult, hunmapped⟩ := List.mem_filterMap.mp hmem
  obtain ⟨⟨sink, content⟩, r, -, hexchange, hsink⟩ := mem_exchangeAll hresult
  obtain rfl : sink = .unlimited := hsink
  rw [(eq_ok_of_unmapped? hunmapped).1] at hexchange
  cases hr : r.resolve with
  | error e => rw [exchange_of_rejected hr] at hexchange; cases hexchange
  | ok resolved =>
      rw [exchange_of_resolve hr] at hexchange
      rw [Except.ok.inj hexchange]
      exact not_complains_of_unlimited c content _ _

theorem unmappedOnes_map_capped (limit : Nat) (chunk : Option Nat) (results : List Exchanged) :
    unmappedOnes (results.map (·.map (Handled.capped limit chunk)))
      = (unmappedOnes results).map (Handled.capped limit chunk) := by
  rw [unmappedOnes, unmappedOnes, List.filterMap_map, List.map_filterMap]
  refine congrArg (List.filterMap · results) (funext fun result => ?_)
  cases result with
  | error e => rfl
  | ok h =>
      simp only [Function.comp_apply, Except.map, unmapped?, Handled.capped]
      split <;> rfl

theorem unmappedBodies_map_capped (limit : Nat) (chunk : Option Nat) (results : List Exchanged) :
    unmappedBodies (results.map (·.map (Handled.capped limit chunk))) = unmappedBodies results := by
  rw [unmappedBodies_eq_map, unmappedOnes_map_capped, List.map_map, unmappedBodies_eq_map]
  rfl

/-- The bytes that the first lines of some bodies take. -/
def lineBytes (n : Nat) (bodies : List String) : Nat :=
  (Text.encode (lines (bodies.take n))).length

theorem lineBytes_mono {j k : Nat} (h : j ≤ k) (bodies : List String) :
    lineBytes j bodies ≤ lineBytes k bodies := by
  obtain ⟨more, hmore⟩ := List.take_prefix_take_left (l := bodies) h
  rw [lineBytes, lineBytes, ← hmore, lines_append, Text.encode_append, List.length_append]
  exact Nat.le_add_right _ _

section
variable {limit : Nat} {chunk : Option Nat}

theorem empty_limited : Console.empty (.limited (some limit) chunk) = .capped limit chunk [] := by
  rw [Console.empty, Console.capped, List.take_nil]

theorem complains_iff (hchunk : ∀ n ∈ chunk, 0 < n) {c : Catalog} {rs : List Request} {k : Nat}
    {h : Handled}
    (hk : (unmappedOnes (exchangeAll c (.empty (.limited (some limit) chunk)) rs))[k]? = some h) :
    h.Complains ↔ limit < lineBytes (k + 1)
      (unmappedBodies (exchangeAll c (.empty (.limited (some limit) chunk)) rs)) := by
  -- Told from the run without a limit, a complaint is an overrun.
  rw [empty_limited, exchangeAll_capped hchunk] at hk ⊢
  rw [unmappedOnes_map_capped, List.getElem?_map] at hk
  rw [unmappedBodies_map_capped]
  obtain ⟨free, hfree, rfl⟩ := Option.map_eq_some_iff.mp hk
  have hmem := List.mem_of_getElem? hfree
  obtain ⟨result, -, hunmapped⟩ := List.mem_filterMap.mp hmem
  have hcode := (eq_ok_of_unmapped? hunmapped).2
  have hcontent := content_of_unmappedOnes c Sink.roomy_unlimited hfree
  rw [Handled.complains_capped_iff (not_complains_of_mem hmem), Handled.Overruns, hcontent,
    List.nil_append]
  exact ⟨And.right, fun hover => ⟨hcode, hover⟩⟩

end

/-- What a result shows: the reply, what the console holds, and the events. -/
def shown (result : Exchanged) : Except RequestError (Reply × List UInt8 × List Event) :=
  result.map fun h => (h.reply, h.console.content, h.events)

theorem shown_map_capped {limit : Nat} (chunk chunk' : Option Nat) (result : Exchanged) :
    shown (result.map (Handled.capped limit chunk))
      = shown (result.map (Handled.capped limit chunk')) := by
  cases result <;> rfl

/-- A console with a limit holds at each moment the first bytes of what it would hold without one;
the diagnostics that fail are those that end behind the limit, and with one of them all later ones;
and the size of the calls shows nowhere. -/
theorem limited_console_loses_tail (c : Catalog) (limit : Nat) {chunk : Option Nat}
    (hchunk : ∀ n ∈ chunk, 0 < n) (rs : List Request) :
    let console := Console.empty (.limited (some limit) chunk)
    let results := exchangeAll c console rs
    let unlimited := exchangeAll c (.empty .unlimited) rs
    (∀ n, (console.after (results.take n)).content
      = ((Console.empty .unlimited).after (unlimited.take n)).content.take limit) ∧
    (∀ k h, (unmappedOnes results)[k]? = some h →
      (h.Complains ↔ limit < lineBytes (k + 1) (unmappedBodies results))) ∧
    (∀ (j k : Nat) (early late : Handled), j ≤ k → (unmappedOnes results)[j]? = some early →
      (unmappedOnes results)[k]? = some late → early.Complains → late.Complains) ∧
    (∀ chunk' : Option Nat, (∀ n ∈ chunk', 0 < n) →
      (exchangeAll c (.empty (.limited (some limit) chunk')) rs).map shown = results.map shown) := by
  intro console results unlimited
  refine ⟨fun n => ?_, fun k h => complains_iff hchunk, ?_, fun chunk' hchunk' => ?_⟩
  · have hresults : results = unlimited.map (·.map (Handled.capped limit chunk)) := by
      rw [show results = _ from congrArg (exchangeAll c · rs) empty_limited]
      exact exchangeAll_capped hchunk c rs []
    rw [hresults, ← List.map_take, show console = _ from empty_limited]
    exact congrArg Console.content (after_map_capped (unlimited.take n) (.empty .unlimited))
  · intro j k early late hjk hearly hlate hcomplains
    have hover : limit < lineBytes (j + 1) (unmappedBodies results) :=
      (complains_iff hchunk hearly).mp hcomplains
    exact (complains_iff hchunk hlate).mpr
      (Nat.lt_of_lt_of_le hover (lineBytes_mono (Nat.succ_le_succ hjk) _))
  · rw [show results = _ from congrArg (exchangeAll c · rs) empty_limited, empty_limited,
      exchangeAll_capped hchunk, exchangeAll_capped hchunk', List.map_map, List.map_map]
    exact List.map_congr_left fun result _ => shown_map_capped chunk' chunk result

/-- The limit falls into the last character of the second line: its first byte is kept, the line
fails, and so does the shorter one after it. -/
theorem limited_console_loses_tail_inside_character :
    (∀ n ∈ some 4, 0 < n) ∧
    let requests : List Request :=
      [⟨"GET", "/a", [], ""⟩, ⟨"POST", "/b", [], ""⟩, ⟨"GET", "/é", [], ""⟩, ⟨"GET", "/", [], ""⟩]
    let console := Console.empty (.limited (some 35) (some 4))
    let results := exchangeAll .builtIn console requests
    (console.after (results.take 4)).text = "No mapping for /a\nNo mapping for /\ufffd" ∧
    (unmappedOnes results).length = 3 ∧
    ∀ k h, (unmappedOnes results)[k]? = some h → (h.Complains ↔ 1 ≤ k) := by
  have hchunk : ∀ n ∈ some 4, 0 < n := by simp
  refine ⟨hchunk, ?_⟩
  intro requests console results
  obtain ⟨hcut, hcomplains, -, -⟩ :=
    limited_console_loses_tail .builtIn 35 hchunk requests
  have hfree : unmappedBodies (exchangeAll .builtIn (.empty .unlimited) requests)
      = ["No mapping for /a", "No mapping for /é", "No mapping for /"] := by rfl
  have hbodies : unmappedBodies results
      = ["No mapping for /a", "No mapping for /é", "No mapping for /"] := by
    rw [show results = _ from congrArg (exchangeAll .builtIn · requests) empty_limited,
      exchangeAll_capped hchunk, unmappedBodies_map_capped]
    exact hfree
  have hlength : (unmappedOnes results).length = 3 := by
    have hmapped := congrArg List.length hbodies
    rwa [unmappedBodies_eq_map, List.length_map] at hmapped
  refine ⟨?_, hlength, fun k h hk => ?_⟩
  · have hunlimited : ((Console.empty .unlimited).after
        ((exchangeAll .builtIn (.empty .unlimited) requests).take 4)).content
          = Text.encode (lines ["No mapping for /a", "No mapping for /é", "No mapping for /"]) := by
      rw [List.take_of_length_le (Nat.le_of_eq (by rfl)),
        after_exchangeAll .builtIn requests Sink.roomy_unlimited, hfree]
      rfl
    rw [Console.text, hcut, hunlimited]
    rfl
  · have hlt : k < 3 := hlength ▸ (List.getElem?_eq_some_iff.mp hk).1
    have hlines : ∀ k < 3, (35 < lineBytes (k + 1)
        ["No mapping for /a", "No mapping for /é", "No mapping for /"] ↔ 1 ≤ k) := by decide
    rw [hcomplains k h hk, hbodies]
    exact hlines k hlt

end StubHttp
