import StubHttp.Proofs.Json.Compact
import StubHttp.Proofs.Json.Pairs
import StubHttp.Proofs.Json.Unambiguity

/-!
# Bodies

The body of a fixture is written for the value of its payload. That it is
compact is known of its text (`compact_text`). Here it is read by the grammar:
it is one value and nothing else (`wellFormed_text`), and whatever the grammar
finds in it has been written for a part of the value (`readsAs_text`). The two
together leave no string a way out of its literal, and no way to become an item
or a member.
-/

namespace StubHttp.Json

/-! ## The text is a value -/

theorem forall₂_writtenParts {R : List Char → List Char × List Char → Prop} {members : Members}
    (h : ∀ m ∈ members, R (memberText m) (writtenParts m)) :
    List.Forall₂ R (members.map memberText) (members.map writtenParts) := by
  rw [List.forall₂_map_left_iff, List.forall₂_map_right_iff, List.forall₂_same]
  exact h

/-- The text of a value is one value of the grammar, and nothing else. -/
theorem wellFormed_text (v : Value) : WellFormed v.text := by
  induction v using Value.induct with
  | null => exact .null
  | boolean b =>
      cases b with
      | false => exact .false
      | true => exact .true
  | number n => exact wellFormed_numberText n
  | string s => exact .string (wellEscaped_writtenString s)
  | array items ih => exact .array (bracketed_array items) (List.forall_mem_map.mpr ih)
  | object members ih =>
      exact .object (bracketed_object members)
        (forall₂_writtenParts fun m _ => memberText_writtenParts m)
        (List.forall_mem_map.mpr fun m _ => wellEscaped_writtenString m.1)
        (List.forall_mem_map.mpr ih)

theorem wellFormedMember_writtenParts (m : String × Value) :
    WellFormedMember (memberText m) (writtenParts m) :=
  ⟨memberText_writtenParts m, wellEscaped_writtenString m.1, wellFormed_text m.2⟩

/-! ## The text is read in one way -/

theorem NumberChar.not_opening {c : Char} (h : NumberChar c) : c ∉ ['"', '[', '\x7b'] := by
  have hnone : ∀ d ∈ ['"', '[', '\x7b'], d.isDigit = false ∧ d ∉ ['.', 'e', 'E', '+', '-'] := by
    simp only [List.forall_mem_cons]
    exact ⟨⟨rfl, by decide⟩, ⟨rfl, by decide⟩, ⟨rfl, by decide⟩, nofun⟩
  intro hc
  obtain ⟨hdigit, hmark⟩ := hnone c hc
  rcases h with h | h
  · rw [h] at hdigit
    cases hdigit
  · exact hmark h

/-- The first character tells strings, lists and objects from each other and from all else. -/
theorem Value.text_eq_cons {v : Value} {c : Char} {cs : List Char} (h : v.text = c :: cs) :
    (c = '"' ∧ ∃ s, v = .string s) ∨ (c = '[' ∧ ∃ items, v = .array items) ∨
      (c = '\x7b' ∧ ∃ members, v = .object members) ∨ c ∉ ['"', '[', '\x7b'] := by
  cases v with
  | null =>
      obtain ⟨rfl, -⟩ := List.cons.inj h
      exact .inr (.inr (.inr (by decide)))
  | boolean b =>
      cases b with
      | false =>
          obtain ⟨rfl, -⟩ := List.cons.inj h
          exact .inr (.inr (.inr (by decide)))
      | true =>
          obtain ⟨rfl, -⟩ := List.cons.inj h
          exact .inr (.inr (.inr (by decide)))
  | number n =>
      have hmem : c ∈ n.text := by
        rw [show n.text = c :: cs from h]
        exact List.mem_cons_self
      exact .inr (.inr (.inr (n.numberChar c hmem).not_opening))
  | string s => exact .inl ⟨(List.cons.inj h).1.symm, s, rfl⟩
  | array items => exact .inr (.inl ⟨(List.cons.inj h).1.symm, items, rfl⟩)
  | object members => exact .inr (.inr (.inl ⟨(List.cons.inj h).1.symm, members, rfl⟩))

/-- A text that the grammar reads as this value and as no other: what it finds between quotes or
between brackets is what has been written there. -/
structure ReadsAs (t : List Char) (v : Value) : Prop where
  wellFormed : WellFormed t
  string {w : List Char} : WellEscaped w → t = '"' :: w ++ ['"'] →
    ∃ s, v = .string s ∧ w = writtenString s
  array {texts : List (List Char)} : Bracketed '[' ']' t texts →
    (∀ text ∈ texts, WellFormed text) → ∃ items, v = .array items ∧ texts = items.map Value.text
  object {texts : List (List Char)} {ms : List (List Char × List Char)} :
    Bracketed '\x7b' '\x7d' t texts → List.Forall₂ WellFormedMember texts ms →
      ∃ members, v = .object members ∧ ms = members.map writtenParts

theorem exists_wellFormedMember {texts : List (List Char)} {ms : List (List Char × List Char)}
    (h : List.Forall₂ WellFormedMember texts ms) : ∀ text ∈ texts, ∃ m, WellFormedMember text m :=
  fun text htext =>
    let ⟨m, _, hm⟩ := exists_of_forall₂ h text htext
    ⟨m, hm⟩

theorem readsAs_text (v : Value) : ReadsAs v.text v where
  wellFormed := wellFormed_text v
  string {w} hw ht := by
    obtain ⟨-, s, rfl⟩ | ⟨hc, -⟩ | ⟨hc, -⟩ | hc := Value.text_eq_cons ht
    · have heq : writtenString s ++ '"' :: [] = w ++ '"' :: [] := (List.cons.inj ht).2
      exact ⟨s, rfl, ((wellEscaped_writtenString s).unique hw heq).1.symm⟩
    · exact absurd hc (by decide)
    · exact absurd hc (by decide)
    · exact absurd (by decide) hc
  array {texts} ht htexts := by
    obtain ⟨inner, htext, -⟩ := id ht
    obtain ⟨hc, -⟩ | ⟨-, items, rfl⟩ | ⟨hc, -⟩ | hc := Value.text_eq_cons htext
    · exact absurd hc (by decide)
    · refine ⟨items, rfl, ?_⟩
      exact ht.unique (.inl rfl) delimited_wellFormed WellFormed.starts (bracketed_array items)
        htexts (List.forall_mem_map.mpr fun v _ => wellFormed_text v)
    · exact absurd hc (by decide)
    · exact absurd (by decide) hc
  object {texts ms} ht hms := by
    obtain ⟨inner, htext, -⟩ := id ht
    obtain ⟨hc, -⟩ | ⟨hc, -⟩ | ⟨-, members, rfl⟩ | hc := Value.text_eq_cons htext
    · exact absurd hc (by decide)
    · exact absurd hc (by decide)
    · have hwritten : List.Forall₂ WellFormedMember (members.map memberText)
          (members.map writtenParts) :=
        forall₂_writtenParts fun m _ => wellFormedMember_writtenParts m
      have htexts : texts = members.map memberText :=
        ht.unique (.inr rfl) delimited_wellFormedMember (fun ⟨_, hm⟩ => hm.1.starts)
          (bracketed_object members) (exists_wellFormedMember hms)
          (exists_wellFormedMember hwritten)
      rw [htexts] at hms
      exact ⟨members, rfl, eq_of_wellFormedMembers hms hwritten⟩
    · exact absurd (by decide) hc

end StubHttp.Json

namespace StubHttp

open Json

/-! ## Payloads -/

/-- A payload that can be written: of pairs, none has a key that is null, an array or an object. -/
def Payload.Writable : Payload → Prop
  | .pairs ps => ∀ p ∈ ps, ¬ Unnamed p.1
  | _ => True

theorem Payload.exists_toJson_iff (payload : Payload) :
    (∃ v, payload.toJson = .ok v) ↔ payload.Writable := by
  cases payload with
  | value v => exact ⟨fun _ => trivial, fun _ => ⟨_, rfl⟩⟩
  | string s => exact ⟨fun _ => trivial, fun _ => ⟨_, rfl⟩⟩
  | tracks ts => exact ⟨fun _ => trivial, fun _ => ⟨_, rfl⟩⟩
  | pairs ps =>
      refine ⟨fun ⟨v, hv⟩ p hp hunnamed => ?_, fun h => ⟨_, ofPairs_of_named h⟩⟩
      rw [toJson, ofPairs_of_unnamed hp hunnamed] at hv
      cases hv

theorem Fixture.json_eq_ok_iff {path description : String} {payload : Payload} {f : Fixture} :
    Fixture.json path payload description = .ok f ↔
      ∃ v, payload.toJson = .ok v ∧ f = ⟨path, v.print, description⟩ := by
  rw [Fixture.json, Payload.encode]
  cases payload.toJson with
  | error e =>
      constructor
      · intro h
        cases h
      · rintro ⟨_, hv, -⟩
        cases hv
  | ok v =>
      constructor
      · intro h
        exact ⟨v, rfl, (Except.ok.inj h).symm⟩
      · rintro ⟨_, hv, rfl⟩
        cases hv
        rfl

/-- A body is written for every payload that can be written. It stands on one line, has no blanks
outside its string literals, and outside of them is the same whatever the strings hold. As a whole
it is one value, and what the grammar finds in it has been written for a part of that value. -/
theorem json_body_compact (path description : String) (payload : Payload) :
    ((∃ f, Fixture.json path payload description = .ok f) ↔ payload.Writable) ∧
    ∀ f, Fixture.json path payload description = .ok f →
      ∃ v, payload.toJson = .ok v ∧
        (∀ c ∈ f.body.toList, 0x20 ≤ c.toNat) ∧
        ' ' ∉ skeleton f.body.toList ∧
        skeleton f.body.toList = v.hollow.text ∧
        ReadsAs f.body.toList v := by
  constructor
  · rw [← payload.exists_toJson_iff]
    constructor
    · rintro ⟨f, hf⟩
      obtain ⟨v, hv, -⟩ := Fixture.json_eq_ok_iff.mp hf
      exact ⟨v, hv⟩
    · rintro ⟨v, hv⟩
      exact ⟨_, Fixture.json_eq_ok_iff.mpr ⟨v, hv, rfl⟩⟩
  · intro f hf
    obtain ⟨v, hv, rfl⟩ := Fixture.json_eq_ok_iff.mp hf
    have hcompact := compact_text v
    have hblank : ' ' ∉ skeleton v.text := hcompact.skeleton_eq ▸ hcompact.blankless
    have hbody : v.print.toList = v.text := String.toList_ofList
    refine ⟨v, hv, ?_⟩
    dsimp only
    rw [hbody]
    exact ⟨hcompact.printable, hblank, hcompact.skeleton_eq, readsAs_text v⟩

/-- Strings that look as if they went on behind their literal. -/
def openEnded : Payload :=
  .pairs [(.string "a\\", .string "\\\""),
    (.boolean true, .array [.string "\",\"\\", .string "], [\n", .number (.integer (-7))])]

/-- None of them does: only the member and the items that there are stand outside of literals. -/
theorem json_body_compact_openEnded :
    ∃ f, Fixture.json "/strings" openEnded "" = .ok f ∧
      (∀ c ∈ f.body.toList, 0x20 ≤ c.toNat) ∧
      skeleton f.body.toList = "\x7b\"\":\"\",\"\":[\"\",\"\",-7]\x7d".toList ∧
      WellFormed f.body.toList := by
  obtain ⟨hwritable, hbody⟩ := json_body_compact "/strings" "" openEnded
  have hnamed : openEnded.Writable := by
    simp only [openEnded, Payload.Writable, List.forall_mem_cons]
    exact ⟨nofun, nofun, nofun⟩
  obtain ⟨f, hf⟩ := hwritable.mpr hnamed
  obtain ⟨v, hv, hline, -, hskeleton, hreads⟩ := hbody f hf
  refine ⟨f, hf, hline, ?_, hreads.wellFormed⟩
  rw [hskeleton]
  obtain rfl := Except.ok.inj hv
  decide

end StubHttp
