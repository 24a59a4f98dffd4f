import StubHttp.Handler
import StubHttp.Proofs.Catalog
import StubHttp.Proofs.Outcome

/-!
# What a request gets

`Answers` tells from the list of fixtures alone which status and which body
belong to a method and a target. For each pair there is exactly one answer, and
it is the one that the catalog of these fixtures replies with (`answers_iff`).
Since `handle` reports to the console on the way but replies with nothing else
(`handle_reply`), a request that can be resolved at all is answered so whatever
the console is, and with the same three headers (`exchange_answers`).
-/

namespace StubHttp

open Http

/-! ## The answer told from the fixtures -/

/-- Status and body for a request: the method is looked at first, then the fixtures in their
order. -/
inductive Answers (fixtures : List Fixture) (method target : String) : Nat → String → Prop
  | unsupported : method ≠ "GET" →
      Answers fixtures method target 501 ("Unsupported method (" ++ method ++ ")")
  | found {before after : List Fixture} {f : Fixture} : method = "GET" →
      fixtures = before ++ f :: after → f.path = target → (∀ g ∈ before, g.path ≠ target) →
      Answers fixtures method target 200 f.body
  | unmapped : method = "GET" → (∀ f ∈ fixtures, f.path ≠ target) →
      Answers fixtures method target 500 ("No mapping for " ++ target)

section
variable {c : Catalog} {method target : String}

theorem reply_of_unsupported (h : method ≠ "GET") :
    c.reply method target = (Refusal.unsupported method).reply := by
  rw [Catalog.reply, Catalog.answer_of_unsupported target h]

theorem reply_of_lookup {f : Fixture} (h : c.lookup target = some f) :
    c.reply "GET" target = f.reply := by
  rw [Catalog.reply, Catalog.answer_of_lookup h]

theorem reply_of_unmapped (h : c.lookup target = none) :
    c.reply "GET" target = (Refusal.unmapped target).reply := by
  rw [Catalog.reply, Catalog.answer_of_unmapped h]

theorem answers_reply (c : Catalog) (method target : String) :
    Answers c.fixtures method target (c.reply method target).status.code
      (c.reply method target).body := by
  by_cases hm : method = "GET"
  · subst hm
    cases hl : c.lookup target with
    | none =>
        rw [reply_of_unmapped hl]
        exact .unmapped rfl (Catalog.lookup_eq_none_iff.mp hl)
    | some f =>
        obtain ⟨hpath, before, after, hsplit, hbefore⟩ := Catalog.lookup_eq_some_iff.mp hl
        rw [reply_of_lookup hl]
        exact .found rfl hsplit hpath hbefore
  · rw [reply_of_unsupported hm]
    exact .unsupported hm

theorem reply_of_answers {code : Nat} {body : String}
    (h : Answers c.fixtures method target code body) :
    code = (c.reply method target).status.code ∧ body = (c.reply method target).body := by
  cases h with
  | unsupported hm => rw [reply_of_unsupported hm]; exact ⟨rfl, rfl⟩
  | found hm hsplit hpath hbefore =>
      subst hm
      rw [reply_of_lookup (Catalog.lookup_eq_some_iff.mpr ⟨hpath, _, _, hsplit, hbefore⟩)]
      exact ⟨rfl, rfl⟩
  | unmapped hm hnone =>
      subst hm
      rw [reply_of_unmapped (Catalog.lookup_eq_none_iff.mpr hnone)]
      exact ⟨rfl, rfl⟩

/-- The catalog gives the one answer there is. -/
theorem answers_iff {code : Nat} {body : String} :
    Answers c.fixtures method target code body ↔
      code = (c.reply method target).status.code ∧ body = (c.reply method target).body := by
  refine ⟨reply_of_answers, ?_⟩
  rintro ⟨rfl, rfl⟩
  exact answers_reply c method target

theorem reply_code_eq_ok_iff :
    (c.reply method target).status.code = 200 ↔
      method = "GET" ∧ ∃ f ∈ c.fixtures, f.path = target := by
  constructor
  · intro h
    have hanswer := answers_reply c method target
    rw [h] at hanswer
    generalize (c.reply method target).body = body at hanswer
    cases hanswer with
    | @found before after f hm hsplit hpath _ => exact ⟨hm, f, by simp [hsplit], hpath⟩
  · rintro ⟨rfl, f, hf, hpath⟩
    cases hl : c.lookup target with
    | none => exact absurd hpath (Catalog.lookup_eq_none_iff.mp hl f hf)
    | some g => rw [reply_of_lookup hl]; rfl

/-- A handler that asks for a type and for the end of the connection gets the length besides. -/
theorem Http.Reply.headers_of_asked {r : Reply} {contentType : String}
    (h : r.asked = [("content-type", contentType), ("connection", "close")]) :
    r.headers = [("connection", "close"), ("content-length", toString r.body.utf8ByteSize),
      ("content-type", contentType)] := by
  simp [Reply.headers, h, setHeader, sortByName, insertByName]

/-- Whatever the answer is, it is sent in the same three headers. -/
theorem headers_reply (c : Catalog) (method target : String) :
    (c.reply method target).headers = [("connection", "close"),
      ("content-length", toString (c.reply method target).body.utf8ByteSize),
      ("content-type", if (c.reply method target).status.code = 200 then "application/json"
        else "text/plain; charset=utf-8")] := by
  rw [Catalog.reply]
  cases c.answer method target with
  | ok f => exact Reply.headers_of_asked rfl
  | error r => cases r <;> exact Reply.headers_of_asked rfl

end

/-! ## Requests -/

section
variable {c : Catalog} {method target : String}

theorem handle_of_answer {f : Fixture} (h : c.answer method target = .ok f) (console : Console) :
    handle c console method target
      = ⟨f.reply, console, [.matched f, .answered method target]⟩ := by
  simp only [handle, Catalog.answerEvents, h, List.singleton_append]

theorem handle_of_unmapped {target' : String}
    (h : c.answer method target = .error (.unmapped target')) (console : Console) :
    handle c console method target
      = ⟨(Refusal.unmapped target').reply, (console.report (Refusal.unmapped target').message).1,
        (console.report (Refusal.unmapped target').message).2 ++ [.unmapped method target]⟩ := by
  simp only [handle, h]

theorem handle_of_unsupported {method' : String}
    (h : c.answer method target = .error (.unsupported method')) (console : Console) :
    handle c console method target
      = ⟨(Refusal.unsupported method').reply, console, [.unsupported method target]⟩ := by
  simp only [handle, h]

/-- All that can come of a request: it is refused for its method, answered with the first fixture
that has its target, or reported. -/
theorem handle_cases (c : Catalog) (console : Console) (method target : String) :
    (method ≠ "GET" ∧ handle c console method target
      = ⟨(Refusal.unsupported method).reply, console, [.unsupported method target]⟩) ∨
    (method = "GET" ∧ ∃ f, c.lookup target = some f ∧ handle c console method target
      = ⟨f.reply, console, [.matched f, .answered method target]⟩) ∨
    (method = "GET" ∧ c.lookup target = none ∧ handle c console method target
      = ⟨(Refusal.unmapped target).reply, (console.report (Refusal.unmapped target).message).1,
        (console.report (Refusal.unmapped target).message).2 ++ [.unmapped method target]⟩) := by
  by_cases hmethod : method = "GET"
  · subst hmethod
    cases hl : c.lookup target with
    | some f =>
        exact .inr (.inl ⟨rfl, f, rfl, handle_of_answer (Catalog.answer_of_lookup hl) console⟩)
    | none =>
        exact .inr (.inr ⟨rfl, rfl, handle_of_unmapped (Catalog.answer_of_unmapped hl) console⟩)
  · exact .inl ⟨hmethod,
      handle_of_unsupported (Catalog.answer_of_unsupported target hmethod) console⟩

end

/-- What becomes of the diagnostic line plays no part in the reply. -/
theorem handle_reply (c : Catalog) (console : Console) (method target : String) :
    (handle c console method target).reply = c.reply method target := by
  rw [handle, Catalog.reply]
  cases c.answer method target with
  | ok f => rfl
  | error r => cases r <;> rfl

theorem resolve_eq_ok_iff {r : Request} {m : Method} {target : String} :
    r.resolve = .ok (m, target) ↔
      Method.ofString? r.method = some m ∧ ∃ u, Uri.parse r.uri = .ok u ∧ u.target = target := by
  rw [Request.resolve]
  cases Method.ofString? r.method with
  | none => simp
  | some m' =>
      cases Uri.parse r.uri with
      | error e => simp
      | ok u => simp

theorem name_of_ofString? {s : String} {m : Method} (h : Method.ofString? s = some m) :
    m.name = s := by
  rw [Method.ofString?] at h
  split at h
  · obtain rfl := Option.some.inj h
    rfl
  · cases h

theorem ofString?_name (m : Method) : Method.ofString? m.name = some m :=
  dif_pos m.isToken

theorem exchange_of_resolve {c : Catalog} {console : Console} {r : Request} {m : Method}
    {target : String} (h : r.resolve = .ok (m, target)) :
    exchange c console r = .ok (handle c console m.name target) := by
  rw [exchange, h]
  rfl

theorem exchange_of_rejected {c : Catalog} {console : Console} {r : Request} {e : RequestError}
    (h : r.resolve = .error e) : exchange c console r = .error e := by
  rw [exchange, h]
  rfl

/-- A request with a valid method and a valid URI gets the one answer that its fixtures have for it,
in the three headers that every reply has, whatever the console is. -/
theorem exchange_answers {fixtures : List Fixture} {c : Catalog}
    (hc : Catalog.ofList? fixtures = .ok c) (console : Console) {r : Request} {m : Method} {u : Uri}
    (hm : Method.ofString? r.method = some m) (hu : Uri.parse r.uri = .ok u) :
    ∃ handled, exchange c console r = .ok handled ∧
      (∀ code body, Answers fixtures r.method u.target code body ↔
        code = handled.reply.status.code ∧ body = handled.reply.body) ∧
      (handled.reply.status.code = 200 ↔ r.method = "GET" ∧ ∃ f ∈ fixtures, f.path = u.target) ∧
      handled.reply.headers = [("connection", "close"),
        ("content-length", toString handled.reply.body.utf8ByteSize),
        ("content-type", if handled.reply.status.code = 200 then "application/json"
          else "text/plain; charset=utf-8")] := by
  obtain rfl := Catalog.fixtures_of_ofList? hc
  have hresolve : r.resolve = .ok (m, u.target) := resolve_eq_ok_iff.mpr ⟨hm, u, hu, rfl⟩
  refine ⟨_, exchange_of_resolve hresolve, ?_⟩
  rw [handle_reply, name_of_ofString? hm]
  exact ⟨fun code body => answers_iff, reply_code_eq_ok_iff, headers_reply c _ _⟩

/-- Of two fixtures with the path asked for the first is served, whatever stands around the path
in the URI. -/
theorem exchange_answers_repeated_path :
    ∃ c, Catalog.ofList? [⟨"/é?q", "first", "a"⟩, ⟨"/é?q", "second", "b"⟩] = .ok c ∧
      Uri.parse "http://me@host:80/é?q#top"
        = .ok ⟨some "http", some "me@host:80", some "/é?q"⟩ ∧
      ∃ handled, exchange c (.empty .poisoned) ⟨"GET", "http://me@host:80/é?q#top", [], ""⟩
          = .ok handled ∧
        handled.reply.status.code = 200 ∧ handled.reply.body = "first" := by
  have hc : Catalog.ofList? [⟨"/é?q", "first", "a"⟩, ⟨"/é?q", "second", "b"⟩]
      = .ok ⟨[⟨"/é?q", "first", "a"⟩, ⟨"/é?q", "second", "b"⟩], by decide⟩ := rfl
  have hu : Uri.parse "http://me@host:80/é?q#top"
      = .ok ⟨some "http", some "me@host:80", some "/é?q"⟩ := by rfl
  obtain ⟨handled, hhandled, hanswers, -, -⟩ :=
    exchange_answers hc (.empty .poisoned) (r := ⟨"GET", "http://me@host:80/é?q#top", [], ""⟩)
      (m := ⟨"GET", by decide⟩) rfl hu
  obtain ⟨hcode, hbody⟩ := (hanswers 200 "first").mp
    (.found rfl (List.nil_append _).symm rfl (by simp))
  exact ⟨_, hc, hu, handled, hhandled, hcode.symm, hbody.symm⟩

end StubHttp
