import StubHttp.Catalog

/-!
# Looking up in a catalog

A catalog holds the fixtures it was made from, in their order
(`fixtures_of_ofList?`), and a look-up finds the one that no fixture before it
shares its path with (`lookup_eq_some_iff`). From these the three ways in which
a request can be answered: `answer_of_lookup`, `answer_of_unmapped` and
`answer_of_unsupported`.
-/

namespace StubHttp.Catalog

/-! ## Making a catalog -/

theorem ofPath?_eq_none_iff {path : String} :
    PathFlaw.ofPath? path = none ↔ path.toList.head? = some '/' := by
  rw [PathFlaw.ofPath?]
  cases path.toList with
  | nil => simp
  | cons c cs => by_cases hc : c = '/' <;> simp [hc]

theorem firstFlaw?_eq_none_iff {fixtures : List Fixture} :
    firstFlaw? fixtures = none ↔ ∀ f ∈ fixtures, PathFlaw.ofPath? f.path = none := by
  refine ⟨rooted_of_firstFlaw?_eq_none, fun h => ?_⟩
  induction fixtures with
  | nil => rfl
  | cons f rest ih =>
      rw [firstFlaw?, h f List.mem_cons_self]
      exact ih fun g hg => h g (List.mem_cons_of_mem _ hg)

theorem ofPath?_eq_empty_iff {path : String} :
    PathFlaw.ofPath? path = some .empty ↔ path = "" := by
  rw [PathFlaw.ofPath?, ← String.toList_eq_nil_iff]
  cases path.toList with
  | nil => simp
  | cons c cs => by_cases hc : c = '/' <;> simp [hc]

/-- The flaw that is found is the first one, whatever comes behind it. -/
theorem firstFlaw?_append {before : List Fixture} {f : Fixture} {flaw : PathFlaw}
    (hbefore : ∀ g ∈ before, PathFlaw.ofPath? g.path = none)
    (hf : PathFlaw.ofPath? f.path = some flaw) (after : List Fixture) :
    firstFlaw? (before ++ f :: after) = some (f.path, flaw) := by
  induction before with
  | nil => rw [List.nil_append, firstFlaw?, hf]
  | cons g before ih =>
      obtain ⟨hg, hbefore⟩ := List.forall_mem_cons.mp hbefore
      rw [List.cons_append, firstFlaw?, hg]
      exact ih hbefore

/-- Where not all paths are without a flaw there is a first one with a flaw. -/
theorem exists_first_flaw {fixtures : List Fixture}
    (h : ¬ ∀ f ∈ fixtures, PathFlaw.ofPath? f.path = none) :
    ∃ before f after flaw, fixtures = before ++ f :: after ∧
      (∀ g ∈ before, PathFlaw.ofPath? g.path = none) ∧ PathFlaw.ofPath? f.path = some flaw := by
  induction fixtures with
  | nil => exact absurd nofun h
  | cons g rest ih =>
      cases hg : PathFlaw.ofPath? g.path with
      | some flaw => exact ⟨[], g, rest, flaw, rfl, nofun, hg⟩
      | none =>
          have hrest : ¬ ∀ f ∈ rest, PathFlaw.ofPath? f.path = none := fun hrest =>
            h (List.forall_mem_cons.mpr ⟨hg, hrest⟩)
          obtain ⟨before, f, after, flaw, rfl, hbefore, hf⟩ := ih hrest
          exact ⟨g :: before, f, after, flaw, rfl, List.forall_mem_cons.mpr ⟨hg, hbefore⟩, hf⟩

/-- A catalog is made of the fixtures it is given, or it is not made. -/
theorem fixtures_of_ofList? {fixtures : List Fixture} {c : Catalog}
    (h : ofList? fixtures = .ok c) : c.fixtures = fixtures := by
  rw [ofList?] at h
  split at h
  · cases h
  · obtain rfl := Except.ok.inj h
    rfl

theorem ofList?_of_flaw {fixtures : List Fixture} {path : String} {flaw : PathFlaw}
    (h : firstFlaw? fixtures = some (path, flaw)) :
    ofList? fixtures = .error (.invalidPath path flaw) := by
  rw [ofList?]
  split
  · next hflaw =>
    rw [h] at hflaw
    cases hflaw
    rfl
  · next hflaw =>
    rw [h] at hflaw
    cases hflaw

theorem ofList?_fixtures (c : Catalog) : ofList? c.fixtures = .ok c := by
  rw [ofList?]
  split
  · next hflaw => rw [firstFlaw?_eq_none_iff.mpr c.rooted] at hflaw; cases hflaw
  · rfl

/-- A catalog can be made of fixtures whose paths all begin with a slash. -/
theorem exists_ofList?_iff {fixtures : List Fixture} :
    (∃ c, ofList? fixtures = .ok c) ↔ ∀ f ∈ fixtures, f.path.toList.head? = some '/' := by
  constructor
  · rintro ⟨c, hc⟩ f hf
    obtain rfl := fixtures_of_ofList? hc
    exact ofPath?_eq_none_iff.mp (c.rooted f hf)
  · intro h
    have hrooted : ∀ f ∈ fixtures, PathFlaw.ofPath? f.path = none := fun f hf =>
      ofPath?_eq_none_iff.mpr (h f hf)
    exact ⟨_, ofList?_fixtures ⟨fixtures, hrooted⟩⟩

/-! ## Looking up -/

theorem lookup_eq_some_iff {c : Catalog} {target : String} {f : Fixture} :
    c.lookup target = some f ↔ f.path = target ∧
      ∃ before after, c.fixtures = before ++ f :: after ∧ ∀ g ∈ before, g.path ≠ target := by
  simp [lookup, List.find?_eq_some_iff_append]

theorem lookup_eq_none_iff {c : Catalog} {target : String} :
    c.lookup target = none ↔ ∀ f ∈ c.fixtures, f.path ≠ target := by
  simp [lookup, List.find?_eq_none]

/-- Only what begins with a slash is ever found. -/
theorem lookup_of_unrooted (c : Catalog) {target : String}
    (h : target.toList.head? ≠ some '/') : c.lookup target = none := by
  rw [lookup_eq_none_iff]
  rintro f hf rfl
  exact h (ofPath?_eq_none_iff.mp (c.rooted f hf))

/-! ## Answering -/

theorem answer_of_unsupported {c : Catalog} {method : String} (target : String)
    (h : method ≠ "GET") : c.answer method target = .error (.unsupported method) :=
  if_neg h

theorem answer_of_lookup {c : Catalog} {target : String} {f : Fixture}
    (h : c.lookup target = some f) : c.answer "GET" target = .ok f := by
  rw [answer, if_pos (show "GET" = supportedMethod from rfl), h]

theorem answer_of_unmapped {c : Catalog} {target : String} (h : c.lookup target = none) :
    c.answer "GET" target = .error (.unmapped target) := by
  rw [answer, if_pos (show "GET" = supportedMethod from rfl), h]

end StubHttp.Catalog
