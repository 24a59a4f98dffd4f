import StubHttp.Proofs.Dispatch
import StubHttp.Proofs.Http.Target

/-!
# Which fixtures can be served

Two fixtures of a catalog may have the same path, the same body and the same
description, so which of them has answered cannot be told from one reply. It can
be told from the replies that the same request gets when the bodies are others:
a request is answered from the fixture at a place if it gets whatever body
stands there (`Catalog.AnsweredFrom`).

The place is then the first one with the path that is asked for
(`Catalog.AnsweredFrom.first`), and a path can be asked for if it is the target
of a URI. This settles which fixtures a catalog holds in vain (`servable_iff`).
-/

namespace StubHttp

open Http

namespace Catalog

/-- The catalog with other bodies, told by their places. -/
def withBodies (c : Catalog) (bodies : Nat → String) : Catalog where
  fixtures := c.fixtures.mapIdx fun i f => { f with body := bodies i }
  rooted f hf := by
    obtain ⟨i, hi, rfl⟩ := List.mem_mapIdx.mp hf
    have hrooted := c.rooted c.fixtures[i] (List.getElem_mem hi)
    exact hrooted

/-- Whether a request gets the body that stands at a place, whichever bodies there are. -/
def AnsweredFrom (c : Catalog) (i : Nat) (r : Request) : Prop :=
  ∀ (bodies : Nat → String) (console : Console), ∃ handled,
    exchange (c.withBodies bodies) console r = .ok handled ∧
      handled.reply.status.code = 200 ∧ handled.reply.body = bodies i

variable {c : Catalog} {i : Nat} {f : Fixture}

theorem getElem?_withBodies (c : Catalog) (bodies : Nat → String) (i : Nat) :
    (c.withBodies bodies).fixtures[i]?
      = (c.fixtures[i]?).map fun f => { f with body := bodies i } :=
  List.getElem?_mapIdx

/-- The fixture at a place answers its path if no fixture before it has the same. -/
theorem answers_of_first (bodies : Nat → String) (hf : c.fixtures[i]? = some f)
    (hfirst : ∀ j g, j < i → c.fixtures[j]? = some g → g.path ≠ f.path) :
    Answers (c.withBodies bodies).fixtures "GET" f.path 200 (bodies i) := by
  have hplace : (c.withBodies bodies).fixtures[i]? = some { f with body := bodies i } := by
    rw [getElem?_withBodies, hf, Option.map_some]
  obtain ⟨hi, hget⟩ := List.getElem?_eq_some_iff.mp hplace
  have hsplit : (c.withBodies bodies).fixtures
      = (c.withBodies bodies).fixtures.take i
        ++ { f with body := bodies i } :: (c.withBodies bodies).fixtures.drop (i + 1) := by
    rw [← hget, List.getElem_cons_drop, List.take_append_drop]
  refine .found rfl hsplit rfl fun g hg => ?_
  obtain ⟨j, hj, rfl⟩ := List.mem_take_iff_getElem.mp hg
  have hbefore := getElem?_withBodies c bodies j
  rw [List.getElem?_eq_getElem (by omega)] at hbefore
  obtain ⟨g, hg, hbody⟩ := Option.map_eq_some_iff.mp hbefore.symm
  rw [← hbody]
  exact hfirst j g (by omega) hg

/-- Bodies that set one place off from all others. -/
def marked (i j : Nat) : String :=
  if j = i then "here" else "elsewhere"

theorem eq_of_marked {i j : Nat} (h : marked i j = "here") : j = i := by
  rw [marked] at h
  split at h
  · next heq => exact heq
  · exact absurd h (by decide)

/-- If a marked body is the answer, its place is the first with the target as its path. -/
theorem first_of_answers {method target body : String}
    (h : Answers (c.withBodies (marked i)).fixtures method target 200 body)
    (hbody : body = "here") :
    ∃ f, c.fixtures[i]? = some f ∧ f.path = target ∧
      ∀ j g, j < i → c.fixtures[j]? = some g → g.path ≠ target := by
  cases h with
  | @found before after marker hmethod hsplit hpath hbefore =>
      have hplace : (c.withBodies (marked i)).fixtures[before.length]? = some marker := by
        rw [hsplit, List.getElem?_append_right (Nat.le_refl _), Nat.sub_self]
        rfl
      rw [getElem?_withBodies] at hplace
      obtain ⟨f, hf, rfl⟩ := Option.map_eq_some_iff.mp hplace
      -- The mark tells which place was found; the fixtures before it have other paths.
      obtain rfl : before.length = i := eq_of_marked hbody
      refine ⟨f, hf, hpath, fun j g hj hg => ?_⟩
      have hearlier : (c.withBodies (marked before.length)).fixtures[j]?
          = some { g with body := marked before.length j } := by
        rw [getElem?_withBodies, hg, Option.map_some]
      rw [hsplit, List.getElem?_append_left hj] at hearlier
      have hother := hbefore _ (List.mem_of_getElem? hearlier)
      exact hother

theorem AnsweredFrom.first {r : Request} (h : c.AnsweredFrom i r) (hf : c.fixtures[i]? = some f) :
    (∃ u, Uri.parse r.uri = .ok u ∧ u.target = f.path) ∧
      ∀ j g, j < i → c.fixtures[j]? = some g → g.path ≠ f.path := by
  obtain ⟨handled, hexchange, hcode, hbody⟩ := h (marked i) (.empty .unlimited)
  cases hr : r.resolve with
  | error e => rw [exchange, hr] at hexchange; cases hexchange
  | ok resolved =>
      obtain ⟨m, target⟩ := resolved
      obtain ⟨-, u, hu, rfl⟩ := resolve_eq_ok_iff.mp hr
      rw [exchange_of_resolve hr] at hexchange
      obtain rfl := Except.ok.inj hexchange
      rw [handle_reply] at hcode hbody
      have hanswers := answers_reply (c.withBodies (marked i)) m.name u.target
      rw [hcode] at hanswers
      obtain ⟨f', hf', hpath, hfirst⟩ := first_of_answers hanswers (by rw [hbody]; exact if_pos rfl)
      obtain rfl : f = f' := Option.some.inj (hf.symm.trans hf')
      exact ⟨⟨u, hu, hpath.symm⟩, fun j g hj hg => hpath ▸ hfirst j g hj hg⟩

/-- The path of a fixture is a request for it, where it is a URI. -/
theorem answeredFrom_of_first (hf : c.fixtures[i]? = some f)
    (hfirst : ∀ j g, j < i → c.fixtures[j]? = some g → g.path ≠ f.path) {u : Uri}
    (hu : Uri.parse f.path = .ok u) (htarget : u.target = f.path) :
    c.AnsweredFrom i ⟨"GET", f.path, [], ""⟩ := by
  intro bodies console
  have hresolve : Request.resolve ⟨"GET", f.path, [], ""⟩ = .ok (⟨"GET", by decide⟩, f.path) :=
    resolve_eq_ok_iff.mpr ⟨ofString?_name ⟨"GET", by decide⟩, u, hu, htarget⟩
  obtain ⟨hcode, hbody⟩ := reply_of_answers (answers_of_first bodies hf hfirst)
  refine ⟨_, exchange_of_resolve hresolve, ?_⟩
  rw [handle_reply]
  exact ⟨hcode.symm, hbody.symm⟩

end Catalog

/-- No byte that ends a path, separates words or controls a terminal is part of a target. -/
theorem Http.TargetBytes.printable {bytes : List UInt8} (h : TargetBytes bytes) {b : UInt8}
    (hb : b ∈ bytes) : b.toNat ≠ 0x23 ∧ 0x20 < b.toNat ∧ b.toNat ≠ 0x7F := by
  rw [← List.takeWhile_append_dropWhile (p := (· ≠ 0x3F)) (l := bytes)] at hb
  rcases List.mem_append.mp hb with hb | hb
  · have hpath := (pathByte_iff b).mp (h.1 b hb)
    omega
  · have hquery := (queryByte_iff b).mp (h.2 b hb)
    omega

/-- A fixture can be asked for if it is the first with its path, its path consists of the bytes of
a path and a query, and it is no longer than a URI may be. -/
theorem servable_iff {fixtures : List Fixture} {c : Catalog} (hc : Catalog.ofList? fixtures = .ok c)
    {i : Nat} {f : Fixture} (hf : fixtures[i]? = some f) :
    ((∃ r, c.AnsweredFrom i r) ↔
      (∀ j g, j < i → fixtures[j]? = some g → g.path ≠ f.path) ∧
      TargetBytes (Text.encode f.path) ∧ f.path.utf8ByteSize ≤ 65534) ∧
    ((∃ r, c.AnsweredFrom i r) → ∀ b ∈ Text.encode f.path,
      b.toNat ≠ 0x23 ∧ 0x20 < b.toNat ∧ b.toNat ≠ 0x7F) := by
  obtain rfl := Catalog.fixtures_of_ofList? hc
  have hslash : f.path.toList.head? = some '/' :=
    Catalog.ofPath?_eq_none_iff.mp (c.rooted f (List.mem_of_getElem? hf))
  have hservable : (∃ r, c.AnsweredFrom i r) ↔
      (∀ j g, j < i → c.fixtures[j]? = some g → g.path ≠ f.path) ∧
      TargetBytes (Text.encode f.path) ∧ f.path.utf8ByteSize ≤ 65534 := by
    constructor
    · rintro ⟨r, hr⟩
      obtain ⟨⟨u, hu, htarget⟩, hfirst⟩ := hr.first hf
      exact ⟨hfirst, (exists_target_iff hslash).mp ⟨r.uri, u, hu, htarget⟩⟩
    · rintro ⟨hfirst, hbytes, hlength⟩
      exact ⟨_, Catalog.answeredFrom_of_first hf hfirst (parse_of_slash hslash hbytes hlength) rfl⟩
  exact ⟨hservable, fun hserved b hb => (hservable.mp hserved).2.1.printable hb⟩

/-- The first of two fixtures with one path is served, though its path has to be spelt in bytes
beyond ASCII and with a backquote; the second never is, nor one with a blank in its path. -/
theorem servable_iff_repeated_path :
    ∃ c, Catalog.ofList? [⟨"/é?`", "first", ""⟩, ⟨"/é?`", "second", ""⟩, ⟨"/a b", "", ""⟩] = .ok c ∧
      (∃ r, c.AnsweredFrom 0 r) ∧ (¬∃ r, c.AnsweredFrom 1 r) ∧ ¬∃ r, c.AnsweredFrom 2 r := by
  have hc : Catalog.ofList? [⟨"/é?`", "first", ""⟩, ⟨"/é?`", "second", ""⟩, ⟨"/a b", "", ""⟩]
      = .ok ⟨[⟨"/é?`", "first", ""⟩, ⟨"/é?`", "second", ""⟩, ⟨"/a b", "", ""⟩], by decide⟩ := rfl
  refine ⟨_, hc, ?_, ?_, ?_⟩
  · refine (servable_iff hc (i := 0) rfl).1.mpr ⟨?_, by decide, by decide⟩
    intro j g hj
    exact absurd hj (Nat.not_lt_zero j)
  · intro hserved
    exact ((servable_iff hc (i := 1) rfl).1.mp hserved).1 0 _ Nat.zero_lt_one rfl rfl
  · intro hserved
    have hblank := (servable_iff hc (i := 2) rfl).2 hserved 0x20 (by decide)
    exact absurd hblank.2.1 (by decide)

end StubHttp
