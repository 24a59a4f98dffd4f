import StubHttp.Proofs.Json.NumberText
import StubHttp.Proofs.Json.Printer
import StubHttp.Proofs.Json.Values

/-!
# Compact text

A body is one value of the grammar, without blanks between its tokens and on
one line. What a string holds plays no part in that. To say so a text is looked
at with everything left out that stands in its string literals (`skeleton`): of
a written value this is what is written for the value with all its strings and
names empty (`Value.hollow`). So no string can end its literal, or put a bracket
or a comma anywhere.

All of this is carried by one invariant of pieces of text (`Compact`), which
holds of every token, and of pieces that are put together if it holds of each.
-/

namespace StubHttp.Json

/-! ## Outside string literals -/

mutual

/-- What is left of a text without what stands in its string literals; their quotes are kept. -/
def skeleton : List Char → List Char
  | [] => []
  | c :: cs => c :: if c = '"' then behindLiteral cs else skeleton cs

/-- The same for a text that begins inside a literal. -/
def behindLiteral : List Char → List Char
  | [] => []
  | c :: cs =>
    if c = '"' then c :: skeleton cs
    else if c = '\\' then behindEscape cs
    else behindLiteral cs

/-- The same for a text that begins behind a backslash in a literal. -/
def behindEscape : List Char → List Char
  | [] => []
  | _ :: cs => behindLiteral cs

end

theorem skeleton_cons {c : Char} (hc : c ≠ '"') (cs : List Char) :
    skeleton (c :: cs) = c :: skeleton cs := by
  rw [skeleton, if_neg hc]

theorem behindLiteral_cons {c : Char} (hquote : c ≠ '"') (hback : c ≠ '\\') (cs : List Char) :
    behindLiteral (c :: cs) = behindLiteral cs := by
  rw [behindLiteral, if_neg hquote, if_neg hback]

theorem behindLiteral_escaped (c : Char) (cs : List Char) :
    behindLiteral ('\\' :: c :: cs) = behindLiteral cs := by
  rw [behindLiteral, if_neg (by decide), if_pos rfl, behindEscape]

/-! ## Strings -/

theorem Spells.wellEscaped {written meant : List Char} (h : Spells written meant) :
    WellEscaped written := by
  induction h with
  | nil => exact .nil
  | plain hc _ ih => exact .plain hc ih
  | escaped he _ ih =>
      cases he with
      | short hshort => exact .escaped (.short hshort) ih
      | unicode hdigits _ => exact .escaped (.unicode hdigits) ih
      | pair hhigh _ _ hlow _ _ =>
          have hsecond := WellEscaped.escaped (.unicode hlow) ih
          have hboth := WellEscaped.escaped (.unicode hhigh) hsecond
          simpa using hboth

theorem wellEscaped_writtenString (s : String) : WellEscaped (writtenString s) :=
  (spells_flatMap_escapeChar s.toList).wellEscaped

theorem unescaped_of_hexValue? {c : Char} {n : Nat} (h : Text.hexValue? c = some n) :
    Unescaped c := by
  have hbounds := Text.hexDigit_bounds h
  refine ⟨?_, ?_, by omega⟩
  · rintro rfl
    exact absurd hbounds (by decide)
  · rintro rfl
    exact absurd hbounds (by decide)

theorem HexFour.unescaped {ds : List Char} {n : Nat} (h : HexFour ds n) :
    ∀ c ∈ ds, Unescaped c := by
  obtain ⟨a, b, c, d, _, _, _, _, rfl, ha, hb, hc, hd, -⟩ := h
  simp only [List.forall_mem_cons]
  exact ⟨unescaped_of_hexValue? ha, unescaped_of_hexValue? hb, unescaped_of_hexValue? hc,
    unescaped_of_hexValue? hd, nofun⟩

theorem behindLiteral_append {cs : List Char} (h : ∀ c ∈ cs, Unescaped c) (rest : List Char) :
    behindLiteral (cs ++ rest) = behindLiteral rest := by
  induction cs with
  | nil => rfl
  | cons c cs ih =>
      obtain ⟨⟨hquote, hback, -⟩, hcs⟩ := List.forall_mem_cons.mp h
      rw [List.cons_append, behindLiteral_cons hquote hback, ih hcs]

/-- What is written for a string ends neither its literal nor its line. -/
theorem WellEscaped.stays {w : List Char} (h : WellEscaped w) :
    (∀ rest, behindLiteral (w ++ rest) = behindLiteral rest) ∧ ∀ c ∈ w, 0x20 ≤ c.toNat := by
  induction h with
  | nil => exact ⟨fun _ => rfl, nofun⟩
  | plain hc _ ih =>
      obtain ⟨hstays, hprintable⟩ := ih
      refine ⟨fun rest => ?_, List.forall_mem_cons.mpr ⟨hc.2.2, hprintable⟩⟩
      rw [List.cons_append, behindLiteral_cons hc.1 hc.2.1, hstays]
  | escaped he _ ih =>
      obtain ⟨hstays, hprintable⟩ := ih
      cases he with
      | @short e c hshort =>
          refine ⟨fun rest => ?_, ?_⟩
          · simp only [List.cons_append, List.nil_append]
            rw [behindLiteral_escaped, hstays]
          · have hall : ∀ p ∈ shortEscapes, 0x20 ≤ p.1.toNat := by decide
            simp only [List.cons_append, List.nil_append, List.forall_mem_cons]
            exact ⟨by decide, hall _ hshort, hprintable⟩
      | unicode hdigits =>
          have hunescaped := hdigits.unescaped
          refine ⟨fun rest => ?_, ?_⟩
          · simp only [List.cons_append, List.append_assoc]
            rw [behindLiteral_escaped, behindLiteral_append hunescaped, hstays]
          · simp only [List.cons_append, List.forall_mem_cons, List.forall_mem_append]
            exact ⟨by decide, by decide, fun c hc => (hunescaped c hc).2.2, hprintable⟩

/-! ## Pieces of text -/

/-- A piece of text and what it has outside string literals. It stands on one line, leaves no
literal open, and has no blank outside of them. -/
structure Compact (t outline : List Char) : Prop where
  passes : ∀ rest, skeleton (t ++ rest) = outline ++ skeleton rest
  printable : ∀ c ∈ t, 0x20 ≤ c.toNat
  blankless : ' ' ∉ outline

namespace Compact

variable {t t' outline outline' : List Char}

theorem nil : Compact [] [] := ⟨fun _ => rfl, nofun, List.not_mem_nil⟩

theorem append (h : Compact t outline) (h' : Compact t' outline') :
    Compact (t ++ t') (outline ++ outline') where
  passes rest := by rw [List.append_assoc, h.passes, h'.passes, List.append_assoc]
  printable := List.forall_mem_append.mpr ⟨h.printable, h'.printable⟩
  blankless := by
    rw [List.mem_append, not_or]
    exact ⟨h.blankless, h'.blankless⟩

theorem skeleton_eq (h : Compact t outline) : skeleton t = outline := by
  have hpasses := h.passes []
  rwa [List.append_nil, skeleton, List.append_nil] at hpasses

/-- What holds neither quotes nor blanks stands outside as it is. -/
theorem bare (h : ∀ c ∈ t, 0x20 < c.toNat ∧ c ≠ '"') : Compact t t where
  passes rest := by
    induction t with
    | nil => rfl
    | cons c t ih =>
        obtain ⟨⟨-, hc⟩, ht⟩ := List.forall_mem_cons.mp h
        rw [List.cons_append, List.cons_append, skeleton_cons hc, ih ht]
  printable c hc := (h c hc).1.le
  blankless hblank := absurd (h ' ' hblank).1 (by decide)

theorem token (h : t.all (fun c => decide (0x20 < c.toNat ∧ c ≠ '"')) = true) : Compact t t :=
  bare fun c hc => of_decide_eq_true (List.all_eq_true.mp h c hc)

theorem literal {w : List Char} (h : WellEscaped w) :
    Compact ('"' :: w ++ ['"']) ['"', '"'] where
  passes rest := by
    rw [List.cons_append, List.cons_append, skeleton, if_pos rfl, List.append_assoc, h.stays.1,
      List.singleton_append, behindLiteral, if_pos rfl]
    rfl
  printable := by
    simp only [List.cons_append, List.forall_mem_cons, List.forall_mem_append]
    exact ⟨by decide, h.stays.2, by decide, nofun⟩
  blankless := by decide

theorem intercalate {texts outlines : List (List Char)} (h : List.Forall₂ Compact texts outlines) :
    Compact (List.intercalate [','] texts) (List.intercalate [','] outlines) := by
  induction h with
  | nil => exact nil
  | cons hfirst hrest ih =>
      cases hrest with
      | nil => simpa only [List.intercalate_singleton] using hfirst
      | cons hsecond hrest =>
          rw [List.intercalate_cons_cons, List.intercalate_cons_cons]
          exact (hfirst.append (token (by decide))).append ih

/-- Items in their brackets. -/
theorem bracketed {texts outlines : List (List Char)} {opening close : Char}
    (hopening : 0x20 < opening.toNat ∧ opening ≠ '"') (hclose : 0x20 < close.toNat ∧ close ≠ '"')
    (h : List.Forall₂ Compact texts outlines) :
    Compact (opening :: List.intercalate [','] texts ++ [close])
      (opening :: List.intercalate [','] outlines ++ [close]) :=
  (bare (List.forall_mem_singleton.mpr hopening)).append
    ((intercalate h).append (bare (List.forall_mem_singleton.mpr hclose)))

end Compact

/-! ## Values -/

namespace Value

mutual

/-- The same value with all its strings and all names of its members empty. -/
def hollow : Value → Value
  | .string _ => .string ""
  | .array items => .array (hollowItems items)
  | .object members => .object (hollowMembers members)
  | v => v

def hollowItems : List Value → List Value
  | [] => []
  | v :: items => v.hollow :: hollowItems items

def hollowMembers : Members → Members
  | [] => []
  | (_, v) :: members => ("", v.hollow) :: hollowMembers members

end

theorem hollowItems_eq : ∀ items : List Value, hollowItems items = items.map hollow
  | [] => rfl
  | v :: items => by rw [hollowItems, hollowItems_eq items, List.map_cons]

theorem hollowMembers_eq : ∀ members : Members,
    hollowMembers members = members.map fun m => ("", m.2.hollow)
  | [] => rfl
  | (n, v) :: members => by rw [hollowMembers, hollowMembers_eq members, List.map_cons]

end Value

theorem compact_quote (s : String) : Compact (quote s.toList) (quote "".toList) :=
  .literal (wellEscaped_writtenString s)

theorem compact_memberText {m : String × Value} (h : Compact m.2.text m.2.hollow.text) :
    Compact (memberText m) (memberText ("", m.2.hollow)) := by
  have hcolon : Compact [':'] [':'] := .token (by decide)
  simpa [memberText] using (compact_quote m.1).append (hcolon.append h)

/-- A value is written without blanks and on one line, and its strings stay in their literals. -/
theorem compact_text (v : Value) : Compact v.text v.hollow.text := by
  induction v using Value.induct with
  | null => exact .token (by decide)
  | boolean b =>
      cases b with
      | false => exact .token (by decide)
      | true => exact .token (by decide)
  | number n => exact .bare fun c hc => (n.numberChar c hc).bounds
  | string s => exact compact_quote s
  | array items ih =>
      rw [Value.hollow, Value.hollowItems_eq, Value.text, Value.text, itemsText_eq, itemsText_eq,
        List.map_map]
      refine .bracketed (by decide) (by decide) ?_
      rw [List.forall₂_map_left_iff, List.forall₂_map_right_iff, List.forall₂_same]
      exact ih
  | object members ih =>
      rw [Value.hollow, Value.hollowMembers_eq, Value.text, Value.text, membersText_eq,
        membersText_eq, List.map_map]
      refine .bracketed (by decide) (by decide) ?_
      rw [List.forall₂_map_left_iff, List.forall₂_map_right_iff, List.forall₂_same]
      exact fun m hm => compact_memberText (ih m hm)

end StubHttp.Json
