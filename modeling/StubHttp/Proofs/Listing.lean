import Mathlib.Data.List.Forall2
import StubHttp.Listing
import StubHttp.Proofs.Text.Layout

/-!
# What the list of supported queries tells

The list is read back line by line. A line has four blanks, the path up to the
next blank, blanks up to the column in which the description begins, and the
description up to the blanks at the end (`readLine`). The column follows from
the length of the path, whether it fits its own columns or not, so a
description may begin with blanks.

Reading gives the path and the description of a fixture if the blanks that are
set between them cannot be taken for part of them, and if both stand on one
line (`Fixture.Listable`, `readLine_line`). Lists that are the same text are
then lists of the same fixtures (`listing_faithful`).
-/

namespace StubHttp

open Net

/-! ## One line -/

/-- A fixture whose line can be read back. -/
structure Fixture.Listable (f : Fixture) : Prop where
  path_noBlank : ' ' ∉ f.path.toList
  path_oneLine : '\n' ∉ f.path.toList
  description_oneLine : '\n' ∉ f.description.toList
  description_end : f.description.toList.getLast? ≠ some ' '

/-- The row of a fixture without its line feed. -/
def Fixture.line (f : Fixture) : String :=
  "    " ++ f.path ++ Text.blanks (10 - f.path.length + 2) ++ f.description
    ++ Text.blanks (50 - f.description.length)

theorem Fixture.row_eq_line (f : Fixture) : f.row = f.line ++ "\n" := by
  have hgap : Text.blanks (10 - f.path.length) ++ "  " = Text.blanks (10 - f.path.length + 2) :=
    (Text.blanks_add _ 2).symm
  simp only [row, line, Text.flushLeft, ← hgap, String.append_assoc]

theorem Fixture.toList_line (f : Fixture) : f.line.toList
    = List.replicate 4 ' ' ++ (f.path.toList ++ (List.replicate (10 - f.path.length + 2) ' '
      ++ (f.description.toList ++ List.replicate (50 - f.description.length) ' '))) := by
  have hindent : "    ".toList = List.replicate 4 ' ' := rfl
  simp only [line, String.toList_append, Text.toList_blanks, List.append_assoc, hindent]

theorem Fixture.length_line (f : Fixture) : 66 ≤ f.line.length := by
  have hindent : "    ".length = 4 := rfl
  simp only [line, String.length_append, Text.length_blanks, hindent]
  omega

theorem Fixture.Listable.line_oneLine {f : Fixture} (h : f.Listable) : '\n' ∉ f.line.toList := by
  rw [f.toList_line]
  simp [h.path_oneLine, h.description_oneLine]

/-- The path and the description on a line. -/
def readLine (line : List Char) : List Char × List Char :=
  let path := (line.drop 4).takeWhile (· ≠ ' ')
  (path, (line.drop (4 + path.length + (10 - path.length + 2))).rdropWhile (· = ' '))

theorem readLine_line {f : Fixture} (h : f.Listable) :
    readLine f.line.toList = (f.path.toList, f.description.toList) := by
  have hpath : (f.line.toList.drop 4).takeWhile (· ≠ ' ') = f.path.toList := by
    have hbelongs : ∀ c ∈ f.path.toList, decide (c ≠ ' ') = true := fun c hc =>
      decide_eq_true fun hblank => h.path_noBlank (hblank ▸ hc)
    rw [f.toList_line, List.drop_left' List.length_replicate,
      List.takeWhile_append_of_pos hbelongs, List.replicate_succ, List.cons_append,
      List.takeWhile_cons_of_neg (by decide), List.append_nil]
  have hdescription : f.line.toList.drop (4 + f.path.length + (10 - f.path.length + 2))
      = f.description.toList ++ List.replicate (50 - f.description.length) ' ' := by
    rw [f.toList_line, ← List.append_assoc, ← List.append_assoc]
    refine List.drop_left' ?_
    simp only [List.length_append, List.length_replicate, String.length_toList]
  rw [readLine, hpath, String.length_toList, hdescription,
    Text.rdropWhile_append_blanks h.description_end]

/-! ## The list -/

namespace Catalog

theorem toList_listing (c : Catalog) : c.listing.toList
    = ("Supported request queries:".toList :: c.fixtures.map (·.line.toList)).flatMap
      (· ++ ['\n']) := by
  have hlisting : c.listing
      = "Supported request queries:\n" ++ String.join (c.fixtures.map Fixture.row) := rfl
  have hheading : "Supported request queries:\n".toList
      = "Supported request queries:".toList ++ ['\n'] := by decide +kernel
  have hlineFeed : "\n".toList = ['\n'] := rfl
  have hrow : ∀ f : Fixture, f.row.toList = f.line.toList ++ ['\n'] := fun f => by
    rw [f.row_eq_line, String.toList_append, hlineFeed]
  rw [hlisting, String.toList_append, String.toList_join, hheading, List.flatMap_cons]
  simp only [List.flatMap_map, hrow]

/-- The lines of the list are its heading and the lines of the fixtures. -/
theorem splitOn_listing {c : Catalog} (h : ∀ f ∈ c.fixtures, f.Listable) :
    c.listing.toList.splitOn '\n'
      = "Supported request queries:".toList :: c.fixtures.map (·.line.toList) ++ [[]] := by
  rw [toList_listing, Text.splitOn_flatMap_mark]
  refine List.forall_mem_cons.mpr ⟨by decide +kernel, ?_⟩
  rw [List.forall_mem_map]
  exact fun f hf => (h f hf).line_oneLine

/-- The paths and the descriptions of the fixtures, in their order. -/
def queries (c : Catalog) : List (String × String) :=
  c.fixtures.map fun f => (f.path, f.description)

/-- The lines of a list are read back as its queries. -/
theorem queries_eq_of_lines {c₁ c₂ : Catalog} (h₁ : ∀ f ∈ c₁.fixtures, f.Listable)
    (h₂ : ∀ f ∈ c₂.fixtures, f.Listable)
    (h : c₁.fixtures.map (·.line.toList) = c₂.fixtures.map (·.line.toList)) :
    c₁.queries = c₂.queries := by
  have hread : ∀ {c : Catalog}, (∀ f ∈ c.fixtures, f.Listable) →
      ((c.fixtures.map (·.line.toList)).map readLine).map
        (fun fields => (String.ofList fields.1, String.ofList fields.2)) = c.queries := by
    intro c hc
    rw [List.map_map, List.map_map]
    refine List.map_congr_left fun f hf => ?_
    simp only [Function.comp_apply, readLine_line (hc f hf), String.ofList_toList]
  rw [← hread h₁, h, hread h₂]

end Catalog

/-! ## The banner -/

theorem lineFeed_not_mem_toString (n : Nat) : '\n' ∉ (toString n).toList := by
  rw [Nat.toString_eq_ofList_toDigits, String.toList_ofList]
  intro hmem
  exact absurd (Nat.isDigit_of_mem_toDigits (by decide) (by decide) hmem) (by decide)

theorem toString_injective {m n : Nat} (h : (toString m).toList = (toString n).toList) : m = n := by
  rw [Nat.toString_eq_ofList_toDigits, Nat.toString_eq_ofList_toDigits, String.toList_ofList,
    String.toList_ofList] at h
  rw [← Nat.ofDigitChars_ten_toDigits (n := m), h, Nat.ofDigitChars_ten_toDigits]

theorem Catalog.banner_eq (c : Catalog) (e : Endpoint) :
    c.banner e = "Starting HTTP server on http://localhost:" ++ toString e.port.toNat ++ "\n"
      ++ c.listing := rfl

theorem lineFeed_not_mem_firstLine (e : Endpoint) :
    '\n' ∉ ("Starting HTTP server on http://localhost:" ++ toString e.port.toNat).toList := by
  rw [String.toList_append, List.mem_append, not_or]
  exact ⟨by decide +kernel, lineFeed_not_mem_toString _⟩

/-- The first line of a banner ends in the port, and the list is what comes behind it. -/
theorem Catalog.splitOn_banner (c : Catalog) (e : Endpoint) :
    (c.banner e).toList.splitOn '\n'
      = ("Starting HTTP server on http://localhost:".toList ++ (toString e.port.toNat).toList)
        :: c.listing.toList.splitOn '\n' := by
  have hfirst := lineFeed_not_mem_firstLine e
  rw [String.toList_append] at hfirst
  have hsplit : (c.banner e).toList
      = ("Starting HTTP server on http://localhost:".toList ++ (toString e.port.toNat).toList)
        ++ '\n' :: c.listing.toList := by
    have hlineFeed : "\n".toList = ['\n'] := rfl
    simp only [c.banner_eq, String.toList_append, hlineFeed, List.append_assoc,
      List.singleton_append]
  rw [hsplit, List.splitOn_append_cons_self_of_not_mem hfirst]

theorem Catalog.banner_eq_iff {c : Catalog} {e e' : Endpoint} :
    c.banner e = c.banner e' ↔ e.port = e'.port := by
  constructor
  · intro h
    have hlines : (c.banner e).toList.splitOn '\n' = (c.banner e').toList.splitOn '\n' := by rw [h]
    rw [splitOn_banner, splitOn_banner] at hlines
    have hport := List.append_cancel_left (List.cons.inj hlines).1
    exact UInt16.toNat_inj.mp (toString_injective hport)
  · intro h
    rw [banner_eq, banner_eq, h]

/-! ## Nothing is lost -/

/-- From a banner the port and the queries can be told, and from a list the queries. The list has a
line for each fixture below its heading, which holds path and description in full. -/
theorem listing_faithful {c₁ c₂ : Catalog} (h₁ : ∀ f ∈ c₁.fixtures, f.Listable)
    (h₂ : ∀ f ∈ c₂.fixtures, f.Listable) (e₁ e₂ : Endpoint) :
    (c₁.banner e₁ = c₂.banner e₂ → e₁.port = e₂.port ∧ c₁.queries = c₂.queries) ∧
    (c₁.listing = c₂.listing → c₁.queries = c₂.queries) ∧
    ∃ rows : List String,
      (c₁.listing.toList.splitOn '\n').map String.ofList
        = "Supported request queries:" :: rows ++ [""] ∧
      rows.length = c₁.size ∧
      List.Forall₂ (fun f row => 66 ≤ row.length ∧ ∃ left right, 2 ≤ left ∧
        row = "    " ++ f.path ++ Text.blanks left ++ f.description ++ Text.blanks right)
        c₁.fixtures rows := by
  have hqueries : c₁.listing.toList.splitOn '\n' = c₂.listing.toList.splitOn '\n' →
      c₁.queries = c₂.queries := by
    intro hlines
    rw [Catalog.splitOn_listing h₁, Catalog.splitOn_listing h₂] at hlines
    exact Catalog.queries_eq_of_lines h₁ h₂ (List.append_cancel_right (List.cons.inj hlines).2)
  refine ⟨fun hbanner => ?_, fun hlisting => hqueries (by rw [hlisting]),
    c₁.fixtures.map Fixture.line, ?_, List.length_map _, ?_⟩
  · have hlines : (c₁.banner e₁).toList.splitOn '\n' = (c₂.banner e₂).toList.splitOn '\n' := by
      rw [hbanner]
    rw [Catalog.splitOn_banner, Catalog.splitOn_banner] at hlines
    obtain ⟨hfirst, hrest⟩ := List.cons.inj hlines
    have hport := toString_injective (List.append_cancel_left hfirst)
    exact ⟨UInt16.toNat_inj.mp hport, hqueries hrest⟩
  · rw [Catalog.splitOn_listing h₁]
    simp [Function.comp_def]
  · rw [List.forall₂_map_right_iff, List.forall₂_same]
    exact fun f _ => ⟨f.length_line, _, _, Nat.le_add_left 2 _, rfl⟩

/-- A path that is longer than its columns, and two descriptions that differ in the blank in front:
the lists differ, and so do the banners, though the port is the same. -/
theorem listing_faithful_overlong_path :
    let f : Fixture := ⟨"/longer-than-ten", "1", "é"⟩
    let g : Fixture := ⟨"/longer-than-ten", "2", " é"⟩
    let c : Catalog := ⟨[f, f], by decide⟩
    let c' : Catalog := ⟨[f, g], by decide⟩
    let e : Endpoint := .v4 .loopback 8080
    f.Listable ∧ g.Listable ∧ c.listing ≠ c'.listing ∧ c.banner e ≠ c'.banner e := by
  intro f g c c' e
  have hf : f.Listable := ⟨by decide, by decide, by decide, by decide⟩
  have hg : g.Listable := ⟨by decide, by decide, by decide, by decide⟩
  have hc : ∀ f ∈ c.fixtures, f.Listable := by
    simp only [c, List.forall_mem_cons]
    exact ⟨hf, hf, nofun⟩
  have hc' : ∀ f ∈ c'.fixtures, f.Listable := by
    simp only [c', List.forall_mem_cons]
    exact ⟨hf, hg, nofun⟩
  have hqueries : c.queries ≠ c'.queries := by decide
  obtain ⟨hbanner, hlisting, -⟩ := listing_faithful hc hc' e e
  exact ⟨hf, hg, fun h => hqueries (hlisting h), fun h => hqueries (hbanner h).2⟩

end StubHttp
