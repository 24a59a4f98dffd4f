import StubHttp.Proofs.Console
import StubHttp.Proofs.Dispatch
import StubHttp.Proofs.Http.Uri
import StubHttp.Proofs.Text.Layout

/-!
# The console as a record of unmapped requests

A request adds the body of its reply to the console as one line if the status
is 500, and nothing otherwise (`exchange_console`). Over a run these lines add
up (`after_exchangeAll`), and what an unmapped request leaves on the console is
its line with those before it (`content_of_unmappedOnes`). The body is a message
that ends in the target, and no target holds a line feed, so the lines can be
told apart again: cutting the console at its line feeds gives the bodies of the
replies with status 500, in the order of the requests, and nothing else
(`console_lines`).
-/

namespace StubHttp

open Http

/-! ## What a run leaves -/

/-- What came of one request. -/
abbrev Exchanged := Except RequestError Handled

/-- The console once these results are in. -/
def Console.after (before : Console) (results : List Exchanged) : Console :=
  results.foldl (fun console result =>
    match result with
    | .ok handled => handled.console
    | .error _ => console) before

/-- The body of a reply with status 500. -/
def unmappedBody? : Exchanged → Option String
  | .ok handled => if handled.reply.status.code = 500 then some handled.reply.body else none
  | .error _ => none

/-- The bodies of the replies with status 500, in the order of the requests. -/
def unmappedBodies (results : List Exchanged) : List String :=
  results.filterMap unmappedBody?

/-- The text of some lines. -/
def lines (bodies : List String) : String :=
  String.join (bodies.map (· ++ "\n"))

theorem lines_append (bodies bodies' : List String) :
    lines (bodies ++ bodies') = lines bodies ++ lines bodies' := by
  rw [lines, List.map_append, String.join_append, lines, lines]

theorem lines_cons (body : String) (bodies : List String) :
    lines (body :: bodies) = body ++ "\n" ++ lines bodies := by
  rw [lines, List.map_cons, String.join_cons, lines]

/-! ## One request -/

theorem handle_console {c : Catalog} {console : Console} (hs : console.sink.Roomy)
    (method target : String) :
    (handle c console method target).console = { console with
      content := console.content ++
        Text.encode (lines (unmappedBody? (.ok (handle c console method target))).toList) } := by
  have hnothing : console = { console with
      content := console.content ++ Text.encode (lines []) } := by
    simp [lines, Text.encode]
  rcases handle_cases c console method target with
    ⟨-, hhandle⟩ | ⟨-, f, -, hhandle⟩ | ⟨-, -, hhandle⟩
  · rw [hhandle]
    exact hnothing
  · rw [hhandle]
    exact hnothing
  · have hline : lines [(Refusal.unmapped target).message]
        = (Refusal.unmapped target).message ++ "\n" := by
      rw [lines_cons, lines, List.map_nil, String.join_nil, String.append_empty]
    rw [hhandle, Console.report_of_roomy hs, ← hline]
    rfl

theorem handle_sink (c : Catalog) (console : Console) (method target : String) :
    (handle c console method target).console.sink = console.sink := by
  rcases handle_cases c console method target with
    ⟨-, hhandle⟩ | ⟨-, f, -, hhandle⟩ | ⟨-, -, hhandle⟩
  · rw [hhandle]
  · rw [hhandle]
  · rw [hhandle]
    exact console.report_sink _

theorem sink_after_exchange (c : Catalog) (console : Console) (r : Request) :
    (console.after [exchange c console r]).sink = console.sink := by
  cases hr : r.resolve with
  | error e => rw [exchange_of_rejected hr]; rfl
  | ok resolved => rw [exchange_of_resolve hr]; exact handle_sink c console _ _

theorem roomy_after_exchange (c : Catalog) {console : Console} (hs : console.sink.Roomy)
    (r : Request) : (console.after [exchange c console r]).sink.Roomy := by
  rw [sink_after_exchange]
  exact hs

/-- A request adds its line, if it has one, and keeps the sink. -/
theorem exchange_console {c : Catalog} {console : Console} (hs : console.sink.Roomy) (r : Request) :
    console.after [exchange c console r] = { console with
      content := console.content ++
        Text.encode (lines (unmappedBody? (exchange c console r)).toList) } := by
  cases hr : r.resolve with
  | error e =>
      rw [exchange_of_rejected hr]
      simp [Console.after, unmappedBody?, lines, Text.encode]
  | ok resolved =>
      obtain ⟨m, target⟩ := resolved
      rw [exchange_of_resolve hr]
      exact handle_console hs m.name target

theorem lineFeed_not_mem_message {s : String} {u : Uri} (h : Uri.parse s = .ok u) :
    '\n' ∉ ("No mapping for " ++ u.target).toList := by
  intro hmem
  rw [String.toList_append] at hmem
  rcases List.mem_append.mp hmem with hmem | hmem
  · exact absurd hmem (by decide)
  · exact absurd (lt_of_mem_target h hmem) (by decide)

/-- The body of a reply with status 500 has no line feed, since its target has none. -/
theorem lineFeed_not_mem_of_unmappedBody? {c : Catalog} {console : Console} {r : Request}
    {body : String} (h : unmappedBody? (exchange c console r) = some body) :
    '\n' ∉ body.toList := by
  cases hr : r.resolve with
  | error e =>
      rw [exchange_of_rejected hr] at h
      cases h
  | ok resolved =>
      obtain ⟨m, target⟩ := resolved
      obtain ⟨-, u, hu, rfl⟩ := resolve_eq_ok_iff.mp hr
      rw [exchange_of_resolve hr, unmappedBody?, handle_reply] at h
      have hanswer := answers_reply c m.name u.target
      split at h
      · next hcode =>
        rw [hcode, Option.some.inj h] at hanswer
        cases hanswer with
        | unmapped => exact lineFeed_not_mem_message hu
      · cases h

/-! ## Runs -/

theorem exchangeAll_cons (c : Catalog) (console : Console) (r : Request) (rs : List Request) :
    exchangeAll c console (r :: rs)
      = exchange c console r :: exchangeAll c (console.after [exchange c console r]) rs := rfl

/-- Every result of a run is what one request came to, on a console with the sink of the first. -/
theorem mem_exchangeAll {c : Catalog} {result : Exchanged} : ∀ {rs : List Request}
    {console : Console}, result ∈ exchangeAll c console rs →
      ∃ console' r, r ∈ rs ∧ result = exchange c console' r ∧ console'.sink = console.sink
  | [], _, h => by simp [exchangeAll] at h
  | r :: rs, console, h => by
      rw [exchangeAll_cons] at h
      rcases List.mem_cons.mp h with rfl | h
      · exact ⟨console, r, List.mem_cons_self, rfl, rfl⟩
      · obtain ⟨console', r', hr', hresult, hsink⟩ := mem_exchangeAll h
        exact ⟨console', r', List.mem_cons_of_mem _ hr', hresult,
          hsink.trans (sink_after_exchange c console r)⟩

theorem lineFeed_not_mem_unmappedBodies {c : Catalog} {console : Console} {rs : List Request}
    {body : String} (h : body ∈ unmappedBodies (exchangeAll c console rs)) :
    '\n' ∉ body.toList := by
  obtain ⟨result, hresult, hbody⟩ := List.mem_filterMap.mp h
  obtain ⟨console', r, -, rfl, -⟩ := mem_exchangeAll hresult
  exact lineFeed_not_mem_of_unmappedBody? hbody

theorem unmappedBodies_cons (result : Exchanged) (results : List Exchanged) :
    unmappedBodies (result :: results)
      = (unmappedBody? result).toList ++ unmappedBodies results := by
  rw [unmappedBodies, List.filterMap_cons]
  cases unmappedBody? result <;> rfl

/-- Over a run the lines add up: each request finds what those before it have left. -/
theorem after_exchangeAll (c : Catalog) : ∀ (rs : List Request) {console : Console},
    console.sink.Roomy →
    console.after (exchangeAll c console rs) = { console with
      content := console.content ++
        Text.encode (lines (unmappedBodies (exchangeAll c console rs))) }
  | [], console, _ => by
      simp [exchangeAll, Console.after, unmappedBodies, lines, Text.encode]
  | r :: rs, console, hs => by
      have hfirst : console.after [exchange c console r] = _ := exchange_console hs r
      have hroomy := roomy_after_exchange c hs r
      have hrest := after_exchangeAll c rs hroomy
      have hsplit : console.after (exchangeAll c console (r :: rs))
          = (console.after [exchange c console r]).after
              (exchangeAll c (console.after [exchange c console r]) rs) := rfl
      rw [hsplit, hrest, exchangeAll_cons, unmappedBodies_cons, lines_append, Text.encode_append,
        ← List.append_assoc, hfirst]

/-! ## Unmapped requests, one by one -/

def unmapped? : Exchanged → Option Handled
  | .ok h => if h.reply.status.code = 500 then some h else none
  | .error _ => none

/-- What came of the unmapped requests, in their order. -/
def unmappedOnes (results : List Exchanged) : List Handled :=
  results.filterMap unmapped?

theorem unmappedBody?_eq_map (result : Exchanged) :
    unmappedBody? result = (unmapped? result).map (·.reply.body) := by
  cases result with
  | error e => rfl
  | ok h =>
      rw [unmappedBody?, unmapped?]
      split <;> rfl

theorem unmappedBodies_eq_map (results : List Exchanged) :
    unmappedBodies results = (unmappedOnes results).map (·.reply.body) := by
  rw [unmappedBodies, unmappedOnes, List.map_filterMap]
  exact congrArg (List.filterMap · results) (funext unmappedBody?_eq_map)

theorem eq_ok_of_unmapped? {result : Exchanged} {h : Handled} (hr : unmapped? result = some h) :
    result = .ok h ∧ h.reply.status.code = 500 := by
  cases result with
  | error e => cases hr
  | ok h' =>
      rw [unmapped?] at hr
      split at hr
      · next hcode =>
        obtain rfl := Option.some.inj hr
        exact ⟨rfl, hcode⟩
      · cases hr

/-- The console that an unmapped request leaves behind holds its line and those before it. -/
theorem content_of_unmappedOnes (c : Catalog) : ∀ {rs : List Request} {console : Console} {k : Nat}
    {h : Handled}, console.sink.Roomy → (unmappedOnes (exchangeAll c console rs))[k]? = some h →
      h.console.content = console.content ++
        Text.encode (lines ((unmappedBodies (exchangeAll c console rs)).take (k + 1)))
  | [], _, k, _, _, hk => by simp [exchangeAll, unmappedOnes] at hk
  | r :: rs, console, k, h, hs, hk => by
      have hfirst : console.after [exchange c console r] = _ := exchange_console hs r
      have hroomy := roomy_after_exchange c hs r
      have hcontent := congrArg Console.content hfirst
      rw [exchangeAll_cons] at hk ⊢
      rw [unmappedBodies_cons]
      rw [unmappedOnes, List.filterMap_cons] at hk
      rw [unmappedBody?_eq_map] at hcontent ⊢
      -- Either the count goes on in the rest, or the first request is the one that is asked for.
      cases hr : unmapped? (exchange c console r) with
      | none =>
          rw [hr] at hk hcontent
          rw [content_of_unmappedOnes c hroomy hk, hcontent]
          simp [lines, Text.encode]
      | some first =>
          rw [hr] at hk hcontent
          cases k with
          | zero =>
              obtain rfl : first = h := Option.some.inj hk
              have hafter : console.after [exchange c console r] = first.console := by
                rw [(eq_ok_of_unmapped? hr).1]
                rfl
              rw [← hafter]
              exact hcontent
          | succ k =>
              have htake : ∀ bodies : List String,
                  ([first.reply.body] ++ bodies).take (k + 1 + 1)
                    = [first.reply.body] ++ bodies.take (k + 1) := fun _ => rfl
              rw [content_of_unmappedOnes c hroomy hk, hcontent, Option.map_some,
                Option.toList_some, htake, lines_append, Text.encode_append, List.append_assoc]

/-! ## Lines told apart -/

theorem encode_lines (bodies : List String) :
    Text.encode (lines bodies) = (bodies.map Text.encode).flatMap (· ++ [0x0A]) := by
  induction bodies with
  | nil => simp [lines, Text.encode]
  | cons body bodies ih =>
      rw [lines_cons, Text.encode_append, Text.encode_append, encode_lineFeed, ih, List.map_cons,
        List.flatMap_cons]

/-- Cutting lines at their line feeds gives them back, and nothing behind the last one. -/
theorem splitOn_encode_lines {bodies : List String} (h : ∀ body ∈ bodies, '\n' ∉ body.toList) :
    (Text.encode (lines bodies)).splitOn 0x0A = bodies.map Text.encode ++ [[]] := by
  rw [encode_lines, Text.splitOn_flatMap_mark]
  intro piece hpiece hmem
  obtain ⟨body, hbody, rfl⟩ := List.mem_map.mp hpiece
  exact h body hbody ((Text.lineFeed_mem_encode_iff body).mp hmem)

theorem map_decode_encode (bodies : List String) :
    (bodies.map Text.encode).map Text.decode = bodies := by
  rw [List.map_map]
  exact (List.map_congr_left fun body _ => Text.decode_encode body).trans (List.map_id _)

/-- The console of a run holds the bodies of the replies with status 500 as its lines, in the
order of the requests, and nothing else. -/
theorem console_lines (c : Catalog) {sink : Sink} (hs : sink.Roomy) (rs : List Request) :
    let results := exchangeAll c (.empty sink) rs
    let final := (Console.empty sink).after results
    (final.content.splitOn 0x0A).map Text.decode = unmappedBodies results ++ [""] ∧
      final.text = String.join ((unmappedBodies results).map (· ++ "\n")) := by
  intro results final
  have hcontent : final.content = Text.encode (lines (unmappedBodies results)) := by
    rw [show final = _ from after_exchangeAll c rs hs]
    rfl
  constructor
  · rw [hcontent, splitOn_encode_lines fun _ => lineFeed_not_mem_unmappedBodies, List.map_append,
      map_decode_encode]
    rfl
  · rw [Console.text, hcontent, Text.decode_encode, lines]

/-- A sink that takes one byte in a call, and requests of all kinds: unmapped ones with a query and
without a path, a mapped one, one of another method, and one whose URI would have put a second line
on the console. -/
theorem console_lines_bytewise :
    Sink.Roomy (.limited none (some 1)) ∧
    ((Console.empty (.limited none (some 1))).after
        (exchangeAll .builtIn (.empty (.limited none (some 1)))
          [⟨"GET", "/é?x=1", [], ""⟩, ⟨"GET", "/json-1", [], ""⟩, ⟨"POST", "/y", [], ""⟩,
            ⟨"GET", "/a\nNo mapping for /b", [], ""⟩, ⟨"GET", "http://h?q", [], ""⟩])).text
      = "No mapping for /é?x=1\nNo mapping for ?q\n" := by
  have hs : Sink.Roomy (.limited none (some 1)) := Sink.roomy_limited (by simp)
  refine ⟨hs, ?_⟩
  obtain ⟨-, htext⟩ := console_lines .builtIn hs
    [⟨"GET", "/é?x=1", [], ""⟩, ⟨"GET", "/json-1", [], ""⟩, ⟨"POST", "/y", [], ""⟩,
      ⟨"GET", "/a\nNo mapping for /b", [], ""⟩, ⟨"GET", "http://h?q", [], ""⟩]
  have hbodies : unmappedBodies (exchangeAll .builtIn (.empty (.limited none (some 1)))
      [⟨"GET", "/é?x=1", [], ""⟩, ⟨"GET", "/json-1", [], ""⟩, ⟨"POST", "/y", [], ""⟩,
        ⟨"GET", "/a\nNo mapping for /b", [], ""⟩, ⟨"GET", "http://h?q", [], ""⟩])
      = ["No mapping for /é?x=1", "No mapping for ?q"] := by rfl
  rw [htext, hbodies]
  rfl

end StubHttp
