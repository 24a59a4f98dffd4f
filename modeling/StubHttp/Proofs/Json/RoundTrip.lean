import Mathlib
import StubHttp.Fixture
import StubHttp.Proofs.Json.Reader

/-!
# Values survive encoding

The text that is written for a value without doubles decodes to the same value,
as long as arrays and objects nest no deeper than the decoder allows, and is
refused as too deep beyond that (`decode_print`, `decode_print_tooDeep`). A
value that has been decoded from some text is in its canonical form, so its own
text decodes to that very value (`decode_print_of_decode`) and no longer
changes from there on.
-/

namespace StubHttp.Json

/-- What a whole text is read as that has been written for a value. -/
theorem decodeChars_text {v : Value} (h : v.Exact) :
    (decodeChars v.text).mapError Fault.problem = v.reread nestingLimit := by
  have hread : (read v.text).mapError Fault.problem = (v.reread nestingLimit).map (·, []) := by
    have hwhole := reads_text h nestingLimit [] [] .nil .nil
    rwa [List.nil_append, List.append_nil] at hwhole
  rw [decodeChars, mapError_bind, hread]
  cases v.reread nestingLimit <;> rfl

theorem decode_print {v : Value} (h : v.Exact) (hdepth : v.nesting ≤ nestingLimit) :
    decode v.print = .ok v.canonical := by
  have hread := decodeChars_text h
  rw [Value.reread, if_pos hdepth] at hread
  rw [decode, Value.print, String.toList_ofList]
  exact mapError_eq_ok_iff.mpr (mapError_eq_ok_iff.mp hread)

theorem decode_print_tooDeep {v : Value} (h : v.Exact) (hdepth : nestingLimit < v.nesting) :
    ∃ found, decode v.print = .error found ∧ found.problem = .tooDeep := by
  have hread := decodeChars_text h
  rw [Value.reread, if_neg (Nat.not_le.mpr hdepth)] at hread
  cases hchars : decodeChars v.text with
  | ok w => rw [hchars] at hread; cases hread
  | error fault =>
      rw [hchars] at hread
      refine ⟨fault.locate v.text, ?_, Except.error.inj hread⟩
      rw [decode, Value.print, String.toList_ofList, hchars]
      rfl

theorem held_of_decode {text : String} {v : Value} (h : decode text = .ok v) :
    v.Held nestingLimit := by
  obtain ⟨⟨w, rest⟩, hread, h⟩ := bind_eq_ok_iff.mp (mapError_eq_ok_iff.mp h)
  obtain ⟨-, -, h⟩ := bind_eq_ok_iff.mp h
  obtain rfl := pure_eq_ok_iff.mp h
  exact held_of_valueWithin hread

/-- A value that has been decoded is decoded again from its own text. -/
theorem decode_print_of_decode {text : String} {v : Value} (h : decode text = .ok v)
    (hdouble : ∀ x, ¬ Value.Part (.number (.double x)) v) : decode v.print = .ok v := by
  have hheld := held_of_decode h
  have hprint := decode_print ⟨hdouble, hheld.inRange⟩ hheld.nesting_le
  rwa [Value.canonical_of_sorted hheld.sorted] at hprint

theorem json_value (path : String) (v : Value) (description : String) :
    Fixture.json path (.value v) description = .ok ⟨path, v.print, description⟩ := rfl

/-- A fixture can be made from any value, and with at most 127 levels its body decodes to the same
value; with more it is refused. Whatever text a value without doubles has been decoded from, its own
text decodes to it, and is the text that it is then encoded as. -/
theorem json_values_roundTrip :
    (∀ (path description : String) (v : Value), v.Plain →
      ∃ fixture, Fixture.json path (.value v) description = .ok fixture ∧
        fixture.path = path ∧ fixture.description = description ∧
        (v.nesting ≤ 127 → ∃ w, decode fixture.body = .ok w ∧ v.Same w) ∧
        (128 ≤ v.nesting → ∃ found, decode fixture.body = .error found ∧
          found.problem.message = "recursion limit exceeded")) ∧
    ∀ (path description text : String) (v : Value), decode text = .ok v →
      (∀ x, ¬ Value.Part (.number (.double x)) v) →
      ∃ fixture, Fixture.json path (.value v) description = .ok fixture ∧
        decode fixture.body = .ok v ∧
        ∀ w, decode fixture.body = .ok w →
          Fixture.json path (.value w) description = .ok fixture := by
  constructor
  · intro path description v hv
    refine ⟨_, json_value path v description, rfl, rfl, fun hdepth => ?_, fun hdepth => ?_⟩
    · exact ⟨v.canonical, decode_print hv.toExact hdepth, hv.same_canonical⟩
    · obtain ⟨found, hfound, hproblem⟩ := decode_print_tooDeep hv.toExact hdepth
      exact ⟨found, hfound, by rw [hproblem]; rfl⟩
  · intro path description text v hdecode hdouble
    have hagain := decode_print_of_decode hdecode hdouble
    refine ⟨_, json_value path v description, hagain, fun w hw => ?_⟩
    obtain rfl := Except.ok.inj (hagain.symm.trans hw)
    exact json_value path v description

/-- An empty list in so many others. -/
def Value.lists : Nat → Value
  | 0 => .array []
  | n + 1 => .array [lists n]

theorem Value.plain_lists : ∀ n, (lists n).Plain
  | 0 => .array nofun
  | n + 1 => .array fun _ hv => List.mem_singleton.mp hv ▸ plain_lists n

theorem Value.nesting_lists : ∀ n, (lists n).nesting = n + 1
  | 0 => rfl
  | n + 1 => by
      rw [lists, nesting, itemsNesting, itemsNesting, Nat.max_zero, nesting_lists n]

/-- Members out of order with an integer that only fits without a sign, lists nested once too often,
and a text with blanks, an escape and a repeated name. -/
theorem json_values_roundTrip_nested :
    (∃ fixture w, Fixture.json "/v" (.value (.object [("é", .number (.integer (2 ^ 64 - 1))),
          ("a", .array [.null])])) "" = .ok fixture ∧ decode fixture.body = .ok w ∧
        Value.Same (.object [("é", .number (.integer (2 ^ 64 - 1))), ("a", .array [.null])]) w) ∧
    (∃ fixture found, Fixture.json "/v" (.value (.lists 127)) "" = .ok fixture ∧
        decode fixture.body = .error found ∧
        found.problem.message = "recursion limit exceeded") ∧
    ∃ fixture,
      Fixture.json "/v" (.value (.object [("a", .null), ("b", .string "A")])) "" = .ok fixture ∧
      decode " \x7b\"b\": \"\\u0041\", \"a\": [false], \"a\" : null\x7d"
        = decode fixture.body := by
  have htext : decode " \x7b\"b\": \"\\u0041\", \"a\": [false], \"a\" : null\x7d"
      = .ok (.object [("a", .null), ("b", .string "A")]) := by cbv
  have hplain : Value.Plain
      (.object [("é", .number (.integer (2 ^ 64 - 1))), ("a", .array [.null])]) := by
    refine .object (by decide) fun m hm => ?_
    rcases List.mem_pair.mp hm with rfl | rfl
    · exact .integer ⟨by decide, by decide⟩
    · exact .array fun v hv => List.mem_singleton.mp hv ▸ .null
  have hread : Value.Plain (.object [("a", .null), ("b", .string "A")]) := by
    refine .object (by decide) fun m hm => ?_
    rcases List.mem_pair.mp hm with rfl | rfl
    · exact .null
    · exact .string "A"
  obtain ⟨hvalue, htexts⟩ := json_values_roundTrip
  obtain ⟨fixture₁, h₁, -, -, hshallow, -⟩ := hvalue "/v" "" _ hplain
  obtain ⟨w, hw, hsame⟩ := hshallow (by decide)
  obtain ⟨fixture₂, h₂, -, -, -, hdeep⟩ := hvalue "/v" "" _ (Value.plain_lists 127)
  obtain ⟨found, hfound, hmessage⟩ := hdeep (Value.nesting_lists 127).ge
  obtain ⟨fixture₃, h₃, hagain, -⟩ := htexts "/v" "" _ _ htext hread.not_double
  exact ⟨⟨fixture₁, w, h₁, hw, hsame⟩, ⟨fixture₂, found, h₂, hfound, hmessage⟩,
    fixture₃, h₃, htext.trans hagain.symm⟩

end StubHttp.Json
