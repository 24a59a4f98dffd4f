import StubHttp.Http.Connection
import StubHttp.Proofs.Diagnostics
import StubHttp.Proofs.Http.Head
import StubHttp.Proofs.Http.Settled

/-!
# One answer to a connection

A transport may keep a connection open behind an answer and read another request
from it. What it reads that from is up to the transport, and so it is a
parameter here (`Transport`); all that is asked of it is that it closes the
connection behind an answer that says so (`Transport.HonoursClose`). A
conversation is what then goes over one connection: requests one after the
other, each answered from the console that those before it have left
(`Conversation`).

Whichever way an answer comes about, from the handler or from the connection
itself, it says that the connection is closed (`closes_of_serveConnection`). So
every conversation ends with its first answer (`conversation_iff`), and on the
console there is at most the one line of this answer (`console_serveConnection`).
A head that is complete has its answer, and whatever is sent behind it is not
read (`isSettled_of_headText`, `conversation_answers_once`).
-/

namespace StubHttp.Http

/-! ## Conversations -/

/-- What a transport does behind an answer to what a client has sent: the text from which it reads
the next request, or nothing if it closes the connection. -/
abbrev Transport := String → Response → Option String

/-- An answer that says that the connection is closed behind it. -/
def Response.Closes (r : Response) : Prop :=
  ("connection", "close") ∈ r.headers

instance (r : Response) : Decidable r.Closes :=
  inferInstanceAs (Decidable (_ ∈ _))

def Transport.HonoursClose (t : Transport) : Prop :=
  ∀ (raw : String) (r : Response), r.Closes → t raw r = none

/-- The answers on a connection over which `raw` is sent, and the console behind them. -/
inductive Conversation (c : Catalog) (t : Transport) :
    Console → String → List Response → Console → Prop
  | silent {console : Console} {raw : String} :
      (serveConnection c console raw).response = none →
      Conversation c t console raw [] (serveConnection c console raw).console
  | closed {console : Console} {raw : String} {r : Response} :
      (serveConnection c console raw).response = some r → t raw r = none →
      Conversation c t console raw [r] (serveConnection c console raw).console
  | next {console final : Console} {raw more : String} {r : Response} {rs : List Response} :
      (serveConnection c console raw).response = some r → t raw r = some more →
      Conversation c t (serveConnection c console raw).console more rs final →
      Conversation c t console raw (r :: rs) final

/-! ## The answer -/

theorem serveConnection_of_target {raw : String} {head : Head} {rest : List Char} {target : String}
    (hread : Head.read raw.toList = .ok (head, rest)) (htarget : head.target = .ok target)
    (c : Catalog) (console : Console) :
    serveConnection c console raw =
      ⟨some ((handle c console head.method.name target).reply.respond head.version head.method),
        (handle c console head.method.name target).console,
        (handle c console head.method.name target).events⟩ := by
  simp only [serveConnection, hread, htarget]

/-- The connection stays silent, rejects the head itself, or passes on what the handler replies. -/
theorem serveConnection_cases (c : Catalog) (console : Console) (raw : String) :
    serveConnection c console raw = ⟨none, console, []⟩ ∨
    (∃ r : Rejection, serveConnection c console raw = ⟨some r.response, console, []⟩) ∨
    ∃ head rest target, Head.read raw.toList = .ok (head, rest) ∧ head.target = .ok target ∧
      serveConnection c console raw =
        ⟨some ((handle c console head.method.name target).reply.respond head.version head.method),
          (handle c console head.method.name target).console,
          (handle c console head.method.name target).events⟩ := by
  rw [serveConnection]
  dsimp only
  split
  · exact .inl rfl
  · split
    · exact .inl rfl
    · exact .inr (.inl ⟨_, rfl⟩)
  · exact .inr (.inl ⟨_, rfl⟩)
  · next head rest hread =>
    split
    · exact .inr (.inl ⟨_, rfl⟩)
    · next target htarget => exact .inr (.inr ⟨head, rest, target, hread, htarget, rfl⟩)

theorem closes_response (r : Rejection) : r.response.Closes := by
  cases r <;> exact List.mem_cons_self

theorem closes_respond (c : Catalog) (console : Console) (m : Method) (target : String)
    (v : Version) : ((handle c console m.name target).reply.respond v m).Closes := by
  rw [handle_reply, Response.Closes, Reply.respond, headers_reply]
  exact List.mem_cons_self

/-- Every answer closes the connection, whoever has given it. -/
theorem closes_of_serveConnection {c : Catalog} {console : Console} {raw : String} {r : Response}
    (h : (serveConnection c console raw).response = some r) : r.Closes := by
  rcases serveConnection_cases c console raw with
    hserved | ⟨rejection, hserved⟩ | ⟨head, rest, target, -, -, hserved⟩
  · rw [hserved] at h
    cases h
  · rw [hserved] at h
    obtain rfl := Option.some.inj h
    exact closes_response rejection
  · rw [hserved] at h
    obtain rfl := Option.some.inj h
    exact closes_respond ..

/-- A conversation is over with its first answer. -/
theorem conversation_iff {c : Catalog} {t : Transport} (ht : t.HonoursClose)
    {console final : Console} {raw : String} {rs : List Response} :
    Conversation c t console raw rs final ↔
      rs = (serveConnection c console raw).response.toList ∧
        final = (serveConnection c console raw).console := by
  constructor
  · intro h
    cases h with
    | silent hnone => rw [hnone]; exact ⟨rfl, rfl⟩
    | closed hsome _ => rw [hsome]; exact ⟨rfl, rfl⟩
    | next hsome hopen _ =>
        rw [ht _ _ (closes_of_serveConnection hsome)] at hopen
        cases hopen
  · rintro ⟨rfl, rfl⟩
    cases hresponse : (serveConnection c console raw).response with
    | none => exact .silent hresponse
    | some r => exact .closed hresponse (ht _ _ (closes_of_serveConnection hresponse))

/-! ## The console -/

theorem exists_uri_of_target {head : Head} {target : String} (h : head.target = .ok target) :
    ∃ u, Uri.parse head.uri = .ok u ∧ u.target = target := by
  rw [Head.target] at h
  split at h
  · cases h
  split at h
  · cases h
  · next u hu =>
    obtain ⟨framing, -, h⟩ := bind_eq_ok_iff.mp h
    split at h
    · cases h
    · exact ⟨u, hu, pure_eq_ok_iff.mp h⟩

/-- What a request leaves on the console is the beginning of a line, and if it is anything at all
then the line is what the client is told. -/
theorem console_handle (c : Catalog) (console : Console) (method target : String) :
    ∃ grown, (handle c console method target).console
        = { console with content := console.content ++ grown } ∧
      (grown = [] ∨ method = "GET" ∧
        (handle c console method target).reply = (Refusal.unmapped target).reply ∧
        grown <+: Text.encode ("No mapping for " ++ target ++ "\n")) := by
  rcases handle_cases c console method target with
    ⟨-, hhandle⟩ | ⟨-, f, -, hhandle⟩ | ⟨hmethod, -, hhandle⟩
  · rw [hhandle]
    exact ⟨[], console.grown_nil, .inl rfl⟩
  · rw [hhandle]
    exact ⟨[], console.grown_nil, .inl rfl⟩
  · obtain ⟨grown, hgrown, hreport⟩ := console.report_grown (Refusal.unmapped target).message
    rw [hhandle]
    exact ⟨grown, hreport, .inr ⟨hmethod, rfl, hgrown⟩⟩

/-- What a connection leaves on the console is the beginning of at most one line, and if it is
anything at all then the line is the body of the answer. -/
theorem console_serveConnection (c : Catalog) (console : Console) (raw : String) :
    ∃ (line : String) (grown : List UInt8),
      (serveConnection c console raw).console
        = { console with content := console.content ++ grown } ∧
      grown <+: Text.encode (line ++ "\n") ∧ '\n' ∉ line.toList ∧
      (grown ≠ [] → ∃ r, (serveConnection c console raw).response = some r ∧ r.code = 500 ∧
        r.body = line) := by
  rcases serveConnection_cases c console raw with
    hserved | ⟨rejection, hserved⟩ | ⟨head, rest, target, -, htarget, hserved⟩
  · rw [hserved]
    exact ⟨"", [], console.grown_nil, List.nil_prefix, List.not_mem_nil, absurd rfl⟩
  · rw [hserved]
    exact ⟨"", [], console.grown_nil, List.nil_prefix, List.not_mem_nil, absurd rfl⟩
  · obtain ⟨grown, hconsole, hgrown⟩ := console_handle c console head.method.name target
    rw [hserved]
    rcases hgrown with rfl | ⟨hmethod, hreply, hgrown⟩
    · exact ⟨"", [], hconsole, List.nil_prefix, List.not_mem_nil, absurd rfl⟩
    · obtain ⟨u, hu, rfl⟩ := exists_uri_of_target htarget
      refine ⟨"No mapping for " ++ u.target, grown, hconsole, hgrown, lineFeed_not_mem_message hu,
        fun _ => ⟨_, rfl, ?_, ?_⟩⟩
      · rw [hreply]
        rfl
      · rw [hreply, Reply.respond, Method.isHead, hmethod]
        rfl

/-! ## Complete heads -/

/-- A head that is complete has its answer. -/
theorem isSettled_of_headText {text : String} {head : Head} (h : HeadText text.toList head) :
    isSettled text = true := by
  have hread := read_headText h []
  rw [List.append_nil] at hread
  have hother : text.toList.isPrefixOf otherProtocol = false := by
    -- The other protocol begins with what is no head, whatever may follow.
    by_contra hprefix
    rw [Bool.not_eq_false, List.isPrefixOf_iff_prefix] at hprefix
    obtain ⟨rest, hrest⟩ := hprefix
    have hmalformed : Head.read otherProtocol = .error .malformed := rfl
    rw [← hrest, read_headText h rest] at hmalformed
    split at hmalformed <;> cases hmalformed
  rw [isSettled, hread, hother]
  by_cases hroom : head.headers.length ≤ maxHeaders
  · rw [if_pos hroom]
    simp
  · rw [if_neg hroom]
    simp

theorem answered_of_headText {text : String} {head : Head} (h : HeadText text.toList head)
    (c : Catalog) (console : Console) :
    ∃ r, (serveConnection c console text).response = some r := by
  have hread := read_headText h []
  rw [List.append_nil] at hread
  rw [serveConnection, hread]
  by_cases hroom : head.headers.length ≤ maxHeaders
  · rw [if_pos hroom]
    dsimp only
    split
    · exact ⟨_, rfl⟩
    · exact ⟨_, rfl⟩
  · rw [if_neg hroom]
    exact ⟨_, rfl⟩

/-- A conversation has at most one answer, which closes the connection, and leaves at most one line
on the console. For a complete head it has exactly one answer, and this and the console are the same
whatever is sent behind the head. -/
theorem conversation_answers_once (c : Catalog) {t : Transport} (ht : t.HonoursClose)
    (console : Console) :
    (∀ raw, ∃ (rs : List Response) (final : Console),
      (∀ rs' final', Conversation c t console raw rs' final' ↔ rs' = rs ∧ final' = final) ∧
      (rs = [] ∨ ∃ r, rs = [r] ∧ r.Closes) ∧
      ∃ (line : String) (grown : List UInt8),
        final = { console with content := console.content ++ grown } ∧
        grown <+: Text.encode (line ++ "\n") ∧ '\n' ∉ line.toList ∧
        (grown ≠ [] → ∃ r ∈ rs, r.code = 500 ∧ r.body = line)) ∧
    (∀ (text : String) (head : Head), HeadText text.toList head →
      ∃ (r : Response) (final : Console),
        ∀ (more : String) (rs' : List Response) (final' : Console),
          Conversation c t console (text ++ more) rs' final' ↔ rs' = [r] ∧ final' = final) := by
  constructor
  · intro raw
    refine ⟨_, _, fun rs' final' => conversation_iff ht, ?_, ?_⟩
    · cases hresponse : (serveConnection c console raw).response with
      | none => exact .inl rfl
      | some r => exact .inr ⟨r, rfl, closes_of_serveConnection hresponse⟩
    · obtain ⟨line, grown, hconsole, hgrown, hline, hanswer⟩ :=
        console_serveConnection c console raw
      refine ⟨line, grown, hconsole, hgrown, hline, fun hne => ?_⟩
      obtain ⟨r, hr, hcode, hbody⟩ := hanswer hne
      exact ⟨r, by rw [hr]; exact List.mem_singleton_self r, hcode, hbody⟩
  · intro text head htext
    obtain ⟨r, hr⟩ := answered_of_headText htext c console
    refine ⟨r, (serveConnection c console text).console, fun more rs' final' => ?_⟩
    rw [conversation_iff ht, serveConnection_of_isSettled (isSettled_of_headText htext), hr]
    rfl

/-- A transport that reads the next request from behind the head of the last one, unless it is told
to close. -/
def Transport.keepAlive : Transport := fun raw r =>
  if r.Closes then none
  else
    match Head.read raw.toList with
    | .ok (_, rest) => some (String.ofList rest)
    | .error _ => none

/-- Of two requests that are sent at once the second gets no answer, though the first one failed. -/
theorem conversation_answers_once_pipelined :
    let get : Method := ⟨"GET", by decide⟩
    Transport.HonoursClose .keepAlive ∧
    HeadText (plainRequest get "/a" .http10).toList ⟨get, "/a", .http10, []⟩ ∧
    ∃ (r : Response) (final : Console),
      Conversation .builtIn .keepAlive (.empty .unlimited)
        (plainRequest get "/a" .http10 ++ plainRequest get "/json-1" .http11) [r] final ∧
      r.statusLine = "HTTP/1.0 500 Internal Server Error" ∧ r.body = "No mapping for /a" ∧
      final.text = "No mapping for /a\n" := by
  intro get
  have ht : Transport.HonoursClose .keepAlive := fun raw r hr => if_pos hr
  have horigin : IsOriginForm "/a" := ⟨rfl, List.all_eq_true.mp (by decide)⟩
  have htext := headText_plainRequest get horigin .http10
  obtain ⟨r, final, honce⟩ :=
    (conversation_answers_once .builtIn ht (.empty .unlimited)).2 _ _ htext
  refine ⟨ht, htext, r, final, (honce _ _ _).mpr ⟨rfl, rfl⟩, ?_⟩
  -- The answer is the one to the first head alone.
  have hread : Head.read (plainRequest get "/a" .http10 ++ "").toList
      = .ok (⟨get, "/a", .http10, []⟩, []) := by
    rw [String.toList_append]
    exact read_plainRequest get horigin .http10 []
  have hserved := serveConnection_of_target hread
    (target_plainHead get horigin (by decide) .http10) .builtIn (.empty .unlimited)
  rw [handle_of_unmapped (Catalog.answer_of_unmapped rfl),
    Console.report_of_roomy Sink.roomy_unlimited] at hserved
  obtain ⟨hr, hfinal⟩ := (conversation_iff ht).mp ((honce "" [r] final).mpr ⟨rfl, rfl⟩)
  rw [hserved] at hr hfinal
  obtain rfl := List.singleton_inj.mp hr
  refine ⟨by decide, rfl, ?_⟩
  rw [hfinal]
  exact Text.decode_encode "No mapping for /a\n"

end StubHttp.Http
