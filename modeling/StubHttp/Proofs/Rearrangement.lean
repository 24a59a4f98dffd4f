import Mathlib
import StubHttp.Proofs.Catalog

/-!
# What may be changed in a list of fixtures

Of the fixtures with one path only the first is ever answered with, so a list
can be changed in three ways without anybody noticing (`TableStep`): a fixture
is taken out or put in somewhere behind another one with its path, or the
fixtures are reordered so that the first of each path stays the first of them.

Each step keeps what is found for a path (`TableStep.first?_eq`), hence so does
any number of them. There is nothing else that could be changed: lists in which
the same is found can be rearranged into each other (`rearranged_iff`), since
all but the first of each path can be taken out (`exists_distinct`), and what
is left is the same list up to its order.

The same is found, too, in a map that has been filled in the order of the list
and in which no entry is ever replaced (`index_getElem?`).
-/

namespace StubHttp

/-! ## The first fixture of a path -/

/-- The fixture that is found for a path. -/
def first? (fixtures : List Fixture) (path : String) : Option Fixture :=
  fixtures.find? (·.path = path)

/-- A fixture of a list that no other with its path stands in front of. -/
def FirstIn (f : Fixture) (fixtures : List Fixture) : Prop :=
  ∃ before after, fixtures = before ++ f :: after ∧ ∀ g ∈ before, g.path ≠ f.path

section
variable {fs gs before after : List Fixture} {f : Fixture} {path : String}

theorem first?_cons : first? (f :: fs) path = if f.path = path then some f else first? fs path := by
  rw [first?, List.find?_cons, first?]
  by_cases hf : f.path = path
  · simp [hf]
  · simp [hf]

theorem first?_append : first? (fs ++ gs) path = (first? fs path).or (first? gs path) :=
  List.find?_append

theorem first?_eq_some_iff : first? fs path = some f ↔ f.path = path ∧ FirstIn f fs := by
  simp only [first?, List.find?_eq_some_iff_append, decide_eq_true_eq, FirstIn, Bool.not_eq_true',
    decide_eq_false_iff_not]
  exact and_congr_right fun hpath => by rw [hpath]

theorem first?_eq_none_iff : first? fs path = none ↔ ∀ f ∈ fs, f.path ≠ path := by
  simp only [first?, List.find?_eq_none, decide_eq_true_eq, ne_eq]

theorem firstIn_iff : FirstIn f fs ↔ first? fs f.path = some f :=
  (first?_eq_some_iff.trans (and_iff_right rfl)).symm

/-! ## Steps -/

/-- What may be done to a list of fixtures at a time. -/
inductive TableStep : List Fixture → List Fixture → Prop
  | delete {before after : List Fixture} {f : Fixture} : (∃ g ∈ before, g.path = f.path) →
      TableStep (before ++ f :: after) (before ++ after)
  | insert {before after : List Fixture} {f : Fixture} : (∃ g ∈ before, g.path = f.path) →
      TableStep (before ++ after) (before ++ f :: after)
  | reorder {fs gs : List Fixture} : fs.Perm gs → (∀ f, FirstIn f fs → FirstIn f gs) →
      TableStep fs gs

abbrev Rearranged : List Fixture → List Fixture → Prop :=
  Relation.ReflTransGen TableStep

/-- A fixture behind another one with its path is never found. -/
theorem first?_delete (h : ∃ g ∈ before, g.path = f.path) (path : String) :
    first? (before ++ f :: after) path = first? (before ++ after) path := by
  rw [first?_append, first?_append, first?_cons]
  split_ifs with hf
  · obtain ⟨g, hg, hpath⟩ := h
    have hsome : first? before path ≠ none := fun hnone =>
      first?_eq_none_iff.mp hnone g hg (hpath.trans hf)
    obtain ⟨g', hg'⟩ := Option.ne_none_iff_exists'.mp hsome
    rw [hg', Option.some_or, Option.some_or]
  · rfl

theorem first?_reorder (hperm : fs.Perm gs) (hfirst : ∀ f, FirstIn f fs → FirstIn f gs)
    (path : String) : first? fs path = first? gs path := by
  cases hfs : first? fs path with
  | some f =>
      obtain ⟨hpath, hf⟩ := first?_eq_some_iff.mp hfs
      exact (first?_eq_some_iff.mpr ⟨hpath, hfirst f hf⟩).symm
  | none =>
      refine (first?_eq_none_iff.mpr fun f hf => ?_).symm
      exact first?_eq_none_iff.mp hfs f (hperm.mem_iff.mpr hf)

theorem TableStep.first?_eq (h : TableStep fs gs) (path : String) :
    first? fs path = first? gs path := by
  cases h with
  | delete hearlier => exact first?_delete hearlier path
  | insert hearlier => exact (first?_delete hearlier path).symm
  | reorder hperm hfirst => exact first?_reorder hperm hfirst path

theorem Rearranged.first?_eq (h : Rearranged fs gs) (path : String) :
    first? fs path = first? gs path := by
  induction h with
  | refl => rfl
  | tail _ hstep ih => exact ih.trans (hstep.first?_eq path)

/-! ## Rearranging lists in which the same is found -/

theorem TableStep.reorder_of_first? (hperm : fs.Perm gs)
    (h : ∀ path, first? fs path = first? gs path) : TableStep fs gs :=
  .reorder hperm fun f hf => firstIn_iff.mpr ((h f.path).symm.trans (firstIn_iff.mp hf))

theorem TableStep.symm (h : TableStep fs gs) : TableStep gs fs := by
  cases h with
  | delete hearlier => exact .insert hearlier
  | insert hearlier => exact .delete hearlier
  | reorder hperm hfirst =>
      exact .reorder_of_first? hperm.symm fun path => (first?_reorder hperm hfirst path).symm

theorem Rearranged.symm (h : Rearranged fs gs) : Rearranged gs fs := by
  induction h with
  | refl => exact .refl
  | tail _ hstep ih => exact .head hstep.symm ih

theorem TableStep.cons (f : Fixture) (h : TableStep fs gs) : TableStep (f :: fs) (f :: gs) := by
  cases h with
  | delete hearlier =>
      obtain ⟨g, hg, hpath⟩ := hearlier
      exact TableStep.delete ⟨g, List.mem_cons_of_mem f hg, hpath⟩
  | insert hearlier =>
      obtain ⟨g, hg, hpath⟩ := hearlier
      exact TableStep.insert ⟨g, List.mem_cons_of_mem f hg, hpath⟩
  | reorder hperm hfirst =>
      refine .reorder_of_first? (hperm.cons f) fun path => ?_
      rw [first?_cons, first?_cons, first?_reorder hperm hfirst]

/-- All but the first fixture of each path can be taken out. -/
theorem exists_distinct (fs : List Fixture) :
    ∃ us, Rearranged fs us ∧ (us.map (·.path)).Nodup := by
  induction fs with
  | nil => exact ⟨[], .refl, List.nodup_nil⟩
  | cons f rest ih =>
      obtain ⟨us, hrest, hdistinct⟩ := ih
      have hcons : Rearranged (f :: rest) (f :: us) :=
        hrest.lift (f :: ·) fun _ _ hstep => hstep.cons f
      -- A fixture that was the first of its path is not, once `f` stands in front of it.
      by_cases hf : ∃ g ∈ us, g.path = f.path
      · obtain ⟨g, hg, hpath⟩ := hf
        obtain ⟨before, after, rfl⟩ := List.append_of_mem hg
        have hdelete : TableStep (f :: before ++ g :: after) (f :: before ++ after) :=
          .delete ⟨f, List.mem_cons_self, hpath.symm⟩
        refine ⟨_, hcons.tail hdelete, ?_⟩
        rw [List.map_append, List.map_cons, List.nodup_middle, hpath,
          ← List.map_append] at hdistinct
        exact hdistinct
      · push Not at hf
        refine ⟨_, hcons, List.nodup_cons.mpr ⟨?_, hdistinct⟩⟩
        intro hmem
        obtain ⟨g, hg, hpath⟩ := List.mem_map.mp hmem
        exact hf g hg hpath

/-- If no path occurs twice, each fixture is the first of its path. -/
theorem mem_iff_first? (h : (fs.map (·.path)).Nodup) : f ∈ fs ↔ first? fs f.path = some f := by
  constructor
  · intro hf
    obtain ⟨before, after, rfl⟩ := List.append_of_mem hf
    rw [List.map_append, List.map_cons, List.nodup_append] at h
    refine firstIn_iff.mp ⟨before, after, rfl, fun g hg => ?_⟩
    exact h.2.2 g.path (List.mem_map_of_mem hg) f.path List.mem_cons_self
  · exact List.mem_of_find?_eq_some

/-- Lists can be rearranged into each other if and only if the same is found in them. -/
theorem rearranged_iff : Rearranged fs gs ↔ ∀ path, first? fs path = first? gs path := by
  refine ⟨Rearranged.first?_eq, fun h => ?_⟩
  -- From `fs` down to the first of each path, to these in the order of `gs`, and up to `gs`.
  obtain ⟨us, hfs, hus⟩ := exists_distinct fs
  obtain ⟨vs, hgs, hvs⟩ := exists_distinct gs
  have hfirst : ∀ path, first? us path = first? vs path := fun path =>
    ((hfs.first?_eq path).symm.trans (h path)).trans (hgs.first?_eq path)
  have hperm : us.Perm vs := by
    refine (List.perm_ext_iff_of_nodup (.of_map _ hus) (.of_map _ hvs)).mpr fun f => ?_
    rw [mem_iff_first? hus, mem_iff_first? hvs, hfirst]
  exact (hfs.tail (.reorder_of_first? hperm hfirst)).trans hgs.symm

/-! ## A map of paths -/

/-- The fixtures by their paths. What has been entered for a path stays. -/
def index (fixtures : List Fixture) : Std.HashMap String Fixture :=
  fixtures.foldl (fun entries f => entries.insertIfNew f.path f) ∅

theorem foldl_insertIfNew_getElem? (entries : Std.HashMap String Fixture) :
    (fs.foldl (fun entries f => entries.insertIfNew f.path f) entries)[path]?
      = entries[path]?.or (first? fs path) := by
  induction fs generalizing entries with
  | nil => exact (Option.or_none).symm
  | cons f rest ih =>
      rw [List.foldl_cons, ih, first?_cons, Std.HashMap.getElem?_insertIfNew]
      simp only [beq_iff_eq]
      by_cases hf : f.path = path
      · subst hf
        by_cases hentry : f.path ∈ entries
        · obtain ⟨g, hg⟩ := Option.isSome_iff_exists.mp
            (Std.HashMap.mem_iff_isSome_getElem?.mp hentry)
          rw [if_neg fun h => h.2 hentry, hg, Option.some_or, Option.some_or]
        · rw [if_pos ⟨rfl, hentry⟩, if_pos rfl, Std.HashMap.getElem?_eq_none hentry,
            Option.some_or, Option.none_or]
      · rw [if_neg fun h => hf h.1, if_neg hf]

theorem index_getElem? : (index fs)[path]? = first? fs path := by
  rw [index, foldl_insertIfNew_getElem?, Std.HashMap.getElem?_empty, Option.none_or]

end

/-! ## Answers -/

theorem Catalog.toOption_answer (c : Catalog) (target : String) :
    (c.answer "GET" target).toOption = c.lookup target := by
  cases hl : c.lookup target with
  | some f => rw [answer_of_lookup hl, Except.toOption]
  | none => rw [answer_of_unmapped hl, Except.toOption]

/-- Catalogs that answer every request alike find the same fixtures. -/
theorem Catalog.answer_eq_iff {c d : Catalog} :
    (∀ method target, c.answer method target = d.answer method target) ↔
      ∀ target, c.lookup target = d.lookup target := by
  constructor
  · intro h target
    rw [← toOption_answer, h, toOption_answer]
  · intro h method target
    rw [answer, answer, h]

/-- Catalogs answer every request alike if and only if the lists they were made of can be rearranged
into each other, and a look-up finds what a map of these lists holds. -/
theorem answers_of_rearranged {fs gs : List Fixture} {c d : Catalog}
    (hc : Catalog.ofList? fs = .ok c) (hd : Catalog.ofList? gs = .ok d) :
    (Rearranged fs gs ↔ ∀ method target, c.answer method target = d.answer method target) ∧
    (∀ target, c.lookup target = (index fs)[target]?) ∧
    ((∀ target : String, (index fs)[target]? = (index gs)[target]?) ↔
      ∀ method target, c.answer method target = d.answer method target) := by
  obtain rfl := Catalog.fixtures_of_ofList? hc
  obtain rfl := Catalog.fixtures_of_ofList? hd
  refine ⟨?_, fun target => index_getElem?.symm, ?_⟩
  · rw [Catalog.answer_eq_iff]
    exact rearranged_iff
  · rw [Catalog.answer_eq_iff]
    refine forall_congr' fun target => ?_
    rw [index_getElem?, index_getElem?]
    rfl

/-- A second fixture of one path is taken out, the others change places, and a second one is put in
for the other path. Turned around, the list has another first fixture of the first path. -/
theorem answers_of_rearranged_duplicates :
    (∃ c d,
      Catalog.ofList? [⟨"/a", "1", ""⟩, ⟨"/b", "2", ""⟩, ⟨"/a", "3", ""⟩] = .ok c ∧
      Catalog.ofList? [⟨"/b", "2", ""⟩, ⟨"/b", "4", ""⟩, ⟨"/a", "1", ""⟩] = .ok d ∧
      ∀ method target, c.answer method target = d.answer method target) ∧
    ¬ Rearranged [⟨"/a", "1", ""⟩, ⟨"/b", "2", ""⟩, ⟨"/a", "3", ""⟩]
      [⟨"/a", "3", ""⟩, ⟨"/b", "2", ""⟩, ⟨"/a", "1", ""⟩] := by
  have hdelete : TableStep ([⟨"/a", "1", ""⟩, ⟨"/b", "2", ""⟩] ++ [⟨"/a", "3", ""⟩])
      ([⟨"/a", "1", ""⟩, ⟨"/b", "2", ""⟩] ++ []) :=
    .delete ⟨⟨"/a", "1", ""⟩, List.mem_cons_self, rfl⟩
  have hreorder :
      TableStep [⟨"/a", "1", ""⟩, ⟨"/b", "2", ""⟩] [⟨"/b", "2", ""⟩, ⟨"/a", "1", ""⟩] := by
    refine .reorder_of_first? (List.Perm.swap ..) fun path => ?_
    simp only [first?_cons]
    split_ifs with ha hb
    · exact absurd (ha.trans hb.symm) (by decide)
    · rfl
    · rfl
    · rfl
  have hinsert : TableStep ([⟨"/b", "2", ""⟩] ++ [⟨"/a", "1", ""⟩])
      ([⟨"/b", "2", ""⟩] ++ ⟨"/b", "4", ""⟩ :: [⟨"/a", "1", ""⟩]) :=
    .insert ⟨⟨"/b", "2", ""⟩, List.mem_cons_self, rfl⟩
  have hc := Catalog.ofList?_fixtures
    ⟨[⟨"/a", "1", ""⟩, ⟨"/b", "2", ""⟩, ⟨"/a", "3", ""⟩], by decide⟩
  have hd := Catalog.ofList?_fixtures
    ⟨[⟨"/b", "2", ""⟩, ⟨"/b", "4", ""⟩, ⟨"/a", "1", ""⟩], by decide⟩
  refine ⟨⟨_, _, hc, hd, ?_⟩, fun hreverse => ?_⟩
  · exact (answers_of_rearranged hc hd).1.mp (.head hdelete (.head hreorder (.single hinsert)))
  · exact absurd (hreverse.first?_eq "/a") (by decide)

end StubHttp
