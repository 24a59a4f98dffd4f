import Mathlib.Data.List.Forall2
import Mathlib.Data.List.OfFn
import Mathlib.Logic.Equiv.Basic
import StubHttp.Proofs.Diagnostics

/-!
# What a response depends on

What a client gets for a request can be told from the catalog, the method and
the URI (`Catalog.visible`). The console takes part in the run, and a report may
fail half-way, but none of it comes back to the client (`visible_exchange`): so
a whole run answers request by request (`visible_exchangeAll`), and neither the
headers and the body of a request nor the requests before it nor the sink behind
the console make any difference (`responses_independent`).
-/

namespace StubHttp

open Http

/-- What a client gets: status, headers and body, or why the request was rejected. -/
abbrev Visible := Except RequestError (Nat × List (String × String) × String)

def Http.Reply.visible (r : Reply) : Nat × List (String × String) × String :=
  (r.status.code, r.headers, r.body)

def visible (result : Exchanged) : Visible :=
  result.map fun h => h.reply.visible

/-- What a client gets, told without a console. -/
def Catalog.visible (c : Catalog) (method uri : String) : Visible :=
  (Request.resolve ⟨method, uri, [], ""⟩).map fun (m, target) => (c.reply m.name target).visible

theorem visible_exchange (c : Catalog) (console : Console) (r : Request) :
    visible (exchange c console r) = c.visible r.method r.uri := by
  have hresolve : Request.resolve ⟨r.method, r.uri, [], ""⟩ = r.resolve := rfl
  rw [Catalog.visible, hresolve]
  cases hr : r.resolve with
  | error e => rw [exchange_of_rejected hr]; rfl
  | ok resolved =>
      obtain ⟨m, target⟩ := resolved
      rw [exchange_of_resolve hr, visible, Except.map, handle_reply]
      rfl

/-- A run answers each request as if it were alone. -/
theorem visible_exchangeAll (c : Catalog) : ∀ (rs : List Request) (console : Console),
    (exchangeAll c console rs).map visible = rs.map fun r => c.visible r.method r.uri
  | [], _ => rfl
  | r :: rs, console => by
      rw [exchangeAll_cons, List.map_cons, List.map_cons, visible_exchange,
        visible_exchangeAll c rs]

/-- Requests that agree in method and URI get the same responses, whatever their headers and bodies
and the consoles are; and in any other order each request gets the response that it got before. -/
theorem responses_independent (c : Catalog) (console console' : Console) :
    (∀ rs rs' : List Request,
      List.Forall₂ (fun r r' => r.method = r'.method ∧ r.uri = r'.uri) rs rs' →
      (exchangeAll c console rs).map visible = (exchangeAll c console' rs').map visible) ∧
    (∀ {n : Nat} (requests : Fin n → Request) (order : Equiv.Perm (Fin n)),
      ∃ responses : Fin n → Visible,
        (exchangeAll c console (List.ofFn requests)).map visible = List.ofFn responses ∧
        (exchangeAll c console' (List.ofFn (requests ∘ order))).map visible
          = List.ofFn (responses ∘ order)) := by
  constructor
  · intro rs rs' hsame
    rw [visible_exchangeAll, visible_exchangeAll]
    induction hsame with
    | nil => rfl
    | cons hr _ ih => rw [List.map_cons, List.map_cons, hr.1, hr.2, ih]
  · intro n requests order
    refine ⟨fun i => c.visible (requests i).method (requests i).uri, ?_, ?_⟩
    · rw [visible_exchangeAll, List.map_ofFn]
      rfl
    · rw [visible_exchangeAll, List.map_ofFn]
      rfl

/-- Behind a poisoned sink and behind one that is full after three bytes, with other headers and
bodies, and the other way round. -/
theorem responses_independent_of_failing_sinks :
    let rs : List Request :=
      [⟨"GET", "/nowhere", [("accept", "*/*")], "x"⟩, ⟨"GET", "/json-1", [], ""⟩]
    let rs' : List Request :=
      [⟨"GET", "/nowhere", [], ""⟩, ⟨"GET", "/json-1", [("cookie", "k")], "y"⟩]
    List.Forall₂ (fun r r' => r.method = r'.method ∧ r.uri = r'.uri) rs rs' ∧
    (exchangeAll .builtIn (.empty .poisoned) rs).map visible
      = (exchangeAll .builtIn (.empty (.limited (some 3) (some 1))) rs').map visible ∧
    ∃ nowhere found,
      (exchangeAll .builtIn (.empty .poisoned) rs).map visible = [nowhere, found] ∧
      (exchangeAll .builtIn (.empty (.limited (some 3) (some 1))) rs.reverse).map visible
        = [found, nowhere] := by
  intro rs rs'
  have hsame : List.Forall₂ (fun r r' : Request => r.method = r'.method ∧ r.uri = r'.uri) rs rs' :=
    .cons ⟨rfl, rfl⟩ (.cons ⟨rfl, rfl⟩ .nil)
  obtain ⟨hheaders, horder⟩ := responses_independent .builtIn (.empty .poisoned)
    (.empty (.limited (some 3) (some 1)))
  obtain ⟨responses, hfirst, hsecond⟩ :=
    horder (fun i : Fin 2 => rs.get i) (Equiv.swap 0 1)
  exact ⟨hsame, hheaders rs rs' hsame, responses 0, responses 1, hfirst, hsecond⟩

end StubHttp
