import StubHttp.Proofs.Catalog
import StubHttp.Proofs.Http.Absolute

/-!
# Which paths a catalog takes

Whether a catalog can be made is decided by the first character of each path
alone. A path has a use only if it is the target of some URI, and these are two
different questions: a text that is a target may have no slash in front, and a
text with a slash in front may be no target (`catalog_not_iff_targets`).

The targets without a slash in front are three kinds of text: the empty one, the
star, and a query without a path (`IsTarget.cases`). So of the lists of targets
those are turned down that hold one of these, and no others
(`catalog_of_targets_iff`).
-/

namespace StubHttp

open Http

namespace Http

/-- A text that some URI asks for. -/
def IsTarget (t : String) : Prop :=
  ∃ s u, Uri.parse s = .ok u ∧ u.target = t

/-- What is read from a slash, a question mark or a hash on begins with one of the first two. -/
theorem readPathAndQuery_head {cs : List Char} {t : String} (h : readPathAndQuery cs = .ok t)
    (hcs : ∀ d ∈ cs.head?, isDelimiter d = true) :
    t.toList.head? = some '/' ∨ t.toList.head? = some '?' := by
  obtain ⟨-, -, rfl⟩ := readPathAndQuery_eq_ok_iff.mp h
  cases cs with
  | nil => exact .inl rfl
  | cons c cs =>
      have hc := hcs c rfl
      simp only [isDelimiter, Bool.or_eq_true, beq_iff_eq] at hc
      rcases hc with (rfl | rfl) | rfl
      · exact .inl (by simp)
      · exact .inr (by simp)
      · exact .inl (by simp)

theorem IsTarget.cases {t : String} (h : IsTarget t) :
    t = "" ∨ t = "*" ∨ t.toList.head? = some '/' ∨ t.toList.head? = some '?' := by
  obtain ⟨s, u, hu, rfl⟩ := h
  cases Uri.form_of_parse hu with
  | star => exact .inr (.inl rfl)
  | authority => exact .inl rfl
  | origin hslash ht =>
      refine .inr (.inr (readPathAndQuery_head ht fun d hd => ?_))
      obtain rfl := Option.some.inj (hslash.symm.trans hd)
      rfl
  | absolute _ hauthority _ ht =>
      exact .inr (.inr (readPathAndQuery_head ht (readAuthority_delimiter hauthority)))

/-- A target with a slash in front is told by what it is not. -/
theorem IsTarget.slash_iff {t : String} (h : IsTarget t) :
    t.toList.head? = some '/' ↔ t ≠ "" ∧ t ≠ "*" ∧ t.toList.head? ≠ some '?' := by
  constructor
  · intro hslash
    refine ⟨?_, ?_, ?_⟩
    · rintro rfl
      cases hslash
    · rintro rfl
      exact absurd hslash (by decide)
    · rw [hslash]
      decide
  · rintro ⟨hempty, hstar, hquery⟩
    rcases h.cases with h | h | h | h
    · exact absurd h hempty
    · exact absurd h hstar
    · exact h
    · exact absurd h hquery

end Http

/-- A catalog is not made of targets alone, nor of all of them: the star is the target of a URI but
is turned down, and a path with a blank is taken though no URI asks for it. -/
theorem catalog_not_iff_targets :
    (¬ ((∃ c, Catalog.ofList? [⟨"*", "[]", ""⟩] = .ok c) ↔
      ∀ f ∈ [(⟨"*", "[]", ""⟩ : Fixture)], IsTarget f.path)) ∧
    ¬ ((∃ c, Catalog.ofList? [⟨"/a b", "[]", ""⟩] = .ok c) ↔
      ∀ f ∈ [(⟨"/a b", "[]", ""⟩ : Fixture)], IsTarget f.path) := by
  simp only [Catalog.exists_ofList?_iff, List.mem_singleton, forall_eq]
  constructor
  · intro h
    exact absurd (h.mpr ⟨"*", _, rfl, rfl⟩) (by decide)
  · intro h
    obtain ⟨s, u, hu, htarget⟩ := h.mp rfl
    have hblank : ' ' ∈ u.target.toList := by rw [htarget]; decide
    exact absurd (lt_of_mem_target hu hblank) (by decide)

/-- A catalog is made only if every path begins with a slash. Of a list of targets it is made unless
one of them is empty, the star, or a query without a path. -/
theorem catalog_of_targets_iff (fixtures : List Fixture) :
    ((∃ c, Catalog.ofList? fixtures = .ok c) → ∀ f ∈ fixtures, f.path.toList.head? = some '/') ∧
    ((∀ f ∈ fixtures, IsTarget f.path) →
      ((∃ c, Catalog.ofList? fixtures = .ok c) ↔
        ∀ f ∈ fixtures, f.path ≠ "" ∧ f.path ≠ "*" ∧ f.path.toList.head? ≠ some '?')) := by
  refine ⟨Catalog.exists_ofList?_iff.mp, fun htargets => ?_⟩
  rw [Catalog.exists_ofList?_iff]
  exact forall₂_congr fun f hf => (htargets f hf).slash_iff

/-- A path in two scripts and a query are targets both, but the query has no path in front. -/
theorem catalog_of_targets_iff_query :
    (∀ f ∈ [(⟨"/é?ж", "1", ""⟩ : Fixture), ⟨"?x", "2", ""⟩], IsTarget f.path) ∧
    (∃ c, Catalog.ofList? [⟨"/é?ж", "1", ""⟩] = .ok c) ∧
    ¬∃ c, Catalog.ofList? [⟨"/é?ж", "1", ""⟩, ⟨"?x", "2", ""⟩] = .ok c := by
  have hpath : IsTarget "/é?ж" := ⟨"/é?ж", _, rfl, rfl⟩
  have hquery : IsTarget "?x" := ⟨"http://h?x", _, rfl, rfl⟩
  have htargets : ∀ f ∈ [(⟨"/é?ж", "1", ""⟩ : Fixture), ⟨"?x", "2", ""⟩], IsTarget f.path := by
    simp only [List.forall_mem_cons]
    exact ⟨hpath, hquery, nofun⟩
  refine ⟨htargets, ?_, fun hmade => ?_⟩
  · refine ((catalog_of_targets_iff [⟨"/é?ж", "1", ""⟩]).2 ?_).mpr ?_
    · exact List.forall_mem_singleton.mpr hpath
    · exact List.forall_mem_singleton.mpr (by decide)
  · have hpaths := ((catalog_of_targets_iff _).2 htargets).mp hmade
    exact (hpaths ⟨"?x", "2", ""⟩ (List.mem_cons_of_mem _ List.mem_cons_self)).2.2 rfl

end StubHttp
