import StubHttp.Proofs.Dispatch
import StubHttp.Proofs.Validation

/-!
# Making a catalog of a list

A list of fixtures becomes a catalog as it is, or the first of its paths that
has a flaw is named and nothing is made. What comes behind that path plays no
part (`Catalog.firstFlaw?_append`), and of the two flaws it has the one of the
empty path if and only if it is empty (`Catalog.ofPath?_eq_empty_iff`).

A catalog once made has no path without a slash in front. So whatever else a URI
may ask for is answered like any target that no fixture has
(`exchange_of_unrooted`).
-/

namespace StubHttp

open Http

/-- A path that can be served: it is not empty, and it begins with a slash. -/
def Rooted (path : String) : Prop :=
  path ≠ "" ∧ path.toList.head? = some '/'

theorem rooted_iff {path : String} : Rooted path ↔ PathFlaw.ofPath? path = none := by
  rw [Catalog.ofPath?_eq_none_iff, Rooted]
  refine ⟨And.right, fun hslash => ⟨?_, hslash⟩⟩
  rintro rfl
  cases hslash

/-- The two flaws are told apart by whether the path is empty. -/
theorem message_of_ofPath? {path : String} {flaw : PathFlaw}
    (h : PathFlaw.ofPath? path = some flaw) :
    (flaw.message = "path is empty" ↔ path = "") ∧
      (flaw.message = "path must start with '/'" ↔ path ≠ "") := by
  rw [Ne, ← Catalog.ofPath?_eq_empty_iff, h]
  cases flaw <;> decide

/-- A request for a target without a slash in front is answered as unmapped. -/
theorem exchange_of_unrooted (c : Catalog) (console : Console) {r : Request} {u : Uri}
    (hmethod : r.method = "GET") (hu : Uri.parse r.uri = .ok u)
    (htarget : u.target.toList.head? ≠ some '/') :
    ∃ handled, exchange c console r = .ok handled ∧ handled.reply.status.code = 500 ∧
      handled.reply.body = "No mapping for " ++ u.target := by
  have hget : Method.ofString? r.method = some ⟨"GET", by decide⟩ := by
    rw [hmethod]
    rfl
  have hresolve := resolve_eq_ok_iff.mpr ⟨hget, u, hu, rfl⟩
  refine ⟨_, exchange_of_resolve hresolve, ?_⟩
  rw [handle_reply, reply_of_unmapped (c.lookup_of_unrooted htarget)]
  exact ⟨rfl, rfl⟩

/-- A catalog is made of all the fixtures of a list, in their order, if each path begins with a
slash. If not, the first path that does not is named, and the flaw is that it is empty just if it
is. No catalog ever finds a target without a slash in front, and such targets are the empty one, the
star, and queries without a path. -/
theorem catalog_all_or_first_flaw (fixtures : List Fixture) :
    ((∀ f ∈ fixtures, Rooted f.path) →
      ∃ c, Catalog.ofList? fixtures = .ok c ∧ c.fixtures = fixtures ∧
        c.size = fixtures.length ∧ (c.isEmpty = true ↔ c.size = 0)) ∧
    ((¬ ∀ f ∈ fixtures, Rooted f.path) →
      ∃ before f after flaw, fixtures = before ++ f :: after ∧
        (∀ g ∈ before, Rooted g.path) ∧ ¬ Rooted f.path ∧
        (PathFlaw.message flaw = "path is empty" ↔ f.path = "") ∧
        (PathFlaw.message flaw = "path must start with '/'" ↔ f.path ≠ "") ∧
        ∀ after', Catalog.ofList? (before ++ f :: after') = .error (.invalidPath f.path flaw)) ∧
    ∀ c, Catalog.ofList? fixtures = .ok c →
      (∀ target, target.toList.head? ≠ some '/' → c.lookup target = none) ∧
      ∀ (r : Request) (u : Uri), Uri.parse r.uri = .ok u → u.target.toList.head? ≠ some '/' →
        (u.target = "" ∨ u.target = "*" ∨ u.target.toList.head? = some '?') ∧
        (r.method = "GET" → ∀ console, ∃ handled, exchange c console r = .ok handled ∧
          handled.reply.status.code = 500 ∧
          handled.reply.body = "No mapping for " ++ u.target) := by
  simp only [rooted_iff]
  refine ⟨fun hrooted => ?_, fun hflawed => ?_, fun c _ => ⟨fun _ => c.lookup_of_unrooted, ?_⟩⟩
  · refine ⟨_, Catalog.ofList?_fixtures ⟨fixtures, hrooted⟩, rfl, rfl, ?_⟩
    rw [Catalog.isEmpty, Catalog.size, List.isEmpty_iff, List.length_eq_zero_iff]
  · obtain ⟨before, f, after, flaw, hsplit, hbefore, hf⟩ := Catalog.exists_first_flaw hflawed
    obtain ⟨hempty, hunrooted⟩ := message_of_ofPath? hf
    refine ⟨before, f, after, flaw, hsplit, hbefore, ?_, hempty, hunrooted, fun after' => ?_⟩
    · rw [hf]
      nofun
    · exact Catalog.ofList?_of_flaw (Catalog.firstFlaw?_append hbefore hf after')
  · intro r u hu htarget
    refine ⟨?_, fun hmethod console => exchange_of_unrooted c console hmethod hu htarget⟩
    rcases IsTarget.cases ⟨r.uri, u, hu, rfl⟩ with hempty | hstar | hslash | hquery
    · exact .inl hempty
    · exact .inr (.inl hstar)
    · exact absurd hslash htarget
    · exact .inr (.inr hquery)

/-- A path that occurs twice is no flaw. Of a star and an empty path behind it the star is named, and
a query alone is not found. -/
theorem catalog_all_or_first_flaw_star :
    let f : Fixture := ⟨"/a", "1", "d"⟩
    let g : Fixture := ⟨"/a", "2", "e"⟩
    (∃ c, Catalog.ofList? [f, g] = .ok c ∧ c.fixtures = [f, g] ∧ c.size = 2 ∧
      ∃ handled, exchange c (.empty .unlimited) ⟨"GET", "http://h?x", [], ""⟩ = .ok handled ∧
        handled.reply.status.code = 500 ∧ handled.reply.body = "No mapping for ?x") ∧
    ∃ flaw, Catalog.ofList? [f, ⟨"*", "", ""⟩, ⟨"", "", ""⟩] = .error (.invalidPath "*" flaw) ∧
      flaw.message = "path must start with '/'" := by
  intro f g
  have hslash : Rooted "/a" := by
    unfold Rooted
    decide
  have hstar : ¬ Rooted "*" := by
    unfold Rooted
    decide
  constructor
  · obtain ⟨hmade, -, hfound⟩ := catalog_all_or_first_flaw [f, g]
    have hrooted : ∀ x ∈ [f, g], Rooted x.path := by
      simp only [List.forall_mem_cons]
      exact ⟨hslash, hslash, nofun⟩
    obtain ⟨c, hc, hfixtures, hsize, -⟩ := hmade hrooted
    have hu : Uri.parse "http://h?x" = .ok ⟨some "http", some "h", some "?x"⟩ := by rfl
    obtain ⟨-, hunmapped⟩ := (hfound c hc).2 ⟨"GET", "http://h?x", [], ""⟩ _ hu (by decide)
    exact ⟨c, hc, hfixtures, hsize, hunmapped rfl (.empty .unlimited)⟩
  · obtain ⟨-, hnamed, -⟩ := catalog_all_or_first_flaw [f, ⟨"*", "", ""⟩, ⟨"", "", ""⟩]
    have hflawed : ¬ ∀ x ∈ [f, ⟨"*", "", ""⟩, ⟨"", "", ""⟩], Rooted x.path := fun hall =>
      hstar (hall ⟨"*", "", ""⟩ (by simp))
    obtain ⟨before, h, after, flaw, hsplit, hbefore, hh, -, hmessage, herror⟩ := hnamed hflawed
    cases before with
    | nil =>
        obtain ⟨rfl, -⟩ := List.cons.inj hsplit
        exact absurd hslash hh
    | cons x before =>
        obtain ⟨rfl, hbehind⟩ := List.cons.inj hsplit
        cases before with
        | nil =>
            obtain ⟨rfl, rfl⟩ := List.cons.inj hbehind
            exact ⟨flaw, herror _, hmessage.mpr (by decide)⟩
        | cons y before =>
            obtain ⟨rfl, -⟩ := List.cons.inj hbehind
            exact absurd (hbefore ⟨"*", "", ""⟩ (by simp)) hstar

end StubHttp
