import Mathlib
import StubHttp.Catalog
import StubHttp.Proofs.Json.RoundTrip

/-!
# Maps of pairs

A map is given as pairs of a key and a value, and is written as an object. A
key is written as a name (`KeyName`) unless it is null, an array or an object
(`Unnamed`), and one key of that kind is enough for nothing to be written at
all (`ofPairs_eq`), however many pairs stand in front of it.

What is written keeps all pairs. What is read from it has each name once, with
the value of the last pair whose key is written as that name (`LastNamed`,
`lookup_members_eq_some_iff`): two keys of different kinds may have one name.
-/

namespace StubHttp.Json

/-! ## Keys -/

/-- A key that is written as this name. -/
inductive KeyName : Value → String → Prop
  | string (s : String) : KeyName (.string s) s
  | true : KeyName (.boolean true) "true"
  | false : KeyName (.boolean false) "false"
  | integer (i : Int) : KeyName (.number (.integer i)) (toString i)

/-- A key that cannot be written. -/
inductive Unnamed : Value → Prop
  | null : Unnamed .null
  | array (items : List Value) : Unnamed (.array items)
  | object (members : Members) : Unnamed (.object members)

theorem ofList_integerText (i : Int) : String.ofList (integerText i) = toString i := by
  cases i with
  | ofNat n => rfl
  | negSucc n =>
      rw [integerText, String.ofList_cons]
      rfl

theorem keyText?_eq_none_iff {k : Value} : k.keyText? = none ↔ Unnamed k := by
  constructor
  · intro h
    cases k with
    | null => exact .null
    | boolean b => cases b <;> cases h
    | number n => cases h
    | string s => cases h
    | array items => exact .array items
    | object members => exact .object members
  · intro h
    cases h <;> rfl

theorem keyText?_of_keyName {k : Value} {name : String} (h : KeyName k name) :
    k.keyText? = some name := by
  cases h with
  | string s => rfl
  | true => rfl
  | false => rfl
  | integer i => exact congrArg some (ofList_integerText i)

theorem KeyName.unique {k : Value} {name name' : String} (h : KeyName k name)
    (h' : KeyName k name') : name = name' :=
  Option.some.inj ((keyText?_of_keyName h).symm.trans (keyText?_of_keyName h'))

/-- A key that can be written has a name, doubles apart. -/
theorem exists_keyName {k : Value} (hdouble : ∀ x, k ≠ .number (.double x)) (h : ¬ Unnamed k) :
    ∃ name, KeyName k name := by
  cases k with
  | null => exact absurd .null h
  | boolean b =>
      cases b with
      | false => exact ⟨_, .false⟩
      | true => exact ⟨_, .true⟩
  | number n =>
      cases n with
      | integer i => exact ⟨_, .integer i⟩
      | double x => exact absurd rfl (hdouble x)
  | string s => exact ⟨s, .string s⟩
  | array items => exact absurd (.array items) h
  | object members => exact absurd (.object members) h

/-! ## Writing -/

/-- The member that is written for a pair with a key that can be written. -/
def pairMember (p : Value × Value) : String × Value :=
  (p.1.keyText?.getD "", p.2)

/-- All pairs are written, or none is. -/
theorem ofPairs_eq (pairs : List (Value × Value)) :
    Value.ofPairs pairs =
      if ∀ p ∈ pairs, p.1.keyText?.isSome then .ok (.object (pairs.map pairMember))
      else .error .keyNotString := by
  have hwritten : Value.ofPairs pairs = (pairs.mapM fun p =>
      if p.1.keyText?.isSome then .ok (pairMember p) else .error .keyNotString) >>=
        fun members => pure (.object members) := by
    refine congrArg (List.mapM · pairs >>= _) (funext fun ⟨k, v⟩ => ?_)
    dsimp only [pairMember]
    cases k.keyText? <;> rfl
  rw [hwritten, mapM_ite]
  split_ifs <;> rfl

section
variable {pairs : List (Value × Value)}

theorem ofPairs_of_named (h : ∀ p ∈ pairs, ¬ Unnamed p.1) :
    Value.ofPairs pairs = .ok (.object (pairs.map pairMember)) := by
  rw [ofPairs_eq, if_pos]
  intro p hp
  rw [Option.isSome_iff_ne_none, Ne, keyText?_eq_none_iff]
  exact h p hp

theorem ofPairs_of_unnamed {p : Value × Value} (hp : p ∈ pairs) (h : Unnamed p.1) :
    Value.ofPairs pairs = .error .keyNotString := by
  rw [ofPairs_eq, if_neg]
  intro hall
  have hsome := hall p hp
  rw [keyText?_eq_none_iff.mpr h] at hsome
  cases hsome

theorem json_of_named (path description : String) (h : ∀ p ∈ pairs, ¬ Unnamed p.1) :
    Fixture.json path (.pairs pairs) description
      = .ok ⟨path, (Value.object (pairs.map pairMember)).print, description⟩ := by
  rw [Fixture.json, Payload.encode, Payload.toJson, ofPairs_of_named h]
  rfl

theorem json_eq_error_iff {path description : String} {e : EncodeError} :
    Fixture.json path (.pairs pairs) description = .error e ↔ ∃ p ∈ pairs, Unnamed p.1 := by
  constructor
  · intro h
    by_contra hnamed
    push Not at hnamed
    rw [json_of_named path description hnamed] at h
    cases h
  · rintro ⟨p, hp, hunnamed⟩
    rw [Fixture.json, Payload.encode, Payload.toJson, ofPairs_of_unnamed hp hunnamed]
    cases e
    rfl

/-! ## Reading -/

/-- Of the pairs with a key of this name the last has this value. -/
inductive LastNamed (name : String) (v : Value) : List (Value × Value) → Prop
  | here {k : Value} {rest : List (Value × Value)} : KeyName k name →
      (∀ p ∈ rest, ¬ KeyName p.1 name) → LastNamed name v ((k, v) :: rest)
  | later {p : Value × Value} {rest : List (Value × Value)} : LastNamed name v rest →
      LastNamed name v (p :: rest)

theorem LastNamed.exists_pair {name : String} {v : Value} (h : LastNamed name v pairs) :
    ∃ k, (k, v) ∈ pairs ∧ KeyName k name := by
  induction h with
  | here hname _ => exact ⟨_, List.mem_cons_self, hname⟩
  | later _ ih =>
      obtain ⟨k, hk, hname⟩ := ih
      exact ⟨k, List.mem_cons_of_mem _ hk, hname⟩

theorem LastNamed.unique {name : String} {v v' : Value} (h : LastNamed name v pairs)
    (h' : LastNamed name v' pairs) : v = v' := by
  induction h with
  | here _ hnone =>
      cases h' with
      | here _ _ => rfl
      | later h' =>
          obtain ⟨k, hk, hname⟩ := h'.exists_pair
          exact absurd hname (hnone _ hk)
  | later h ih =>
      cases h' with
      | here _ hnone =>
          obtain ⟨k, hk, hname⟩ := h.exists_pair
          exact absurd hname (hnone _ hk)
      | later h' => exact ih h'

theorem pairMember_of_keyName {p : Value × Value} {name : String} (h : KeyName p.1 name) :
    pairMember p = (name, p.2) := by
  rw [pairMember, keyText?_of_keyName h, Option.getD_some]

theorem lookup_members_eq_none_iff (h : ∀ p ∈ pairs, ∃ name, KeyName p.1 name) {name : String} :
    (pairs.map pairMember).reverse.lookup name = none ↔ ∀ p ∈ pairs, ¬ KeyName p.1 name := by
  simp only [List.lookup_eq_none_iff, List.mem_reverse, List.forall_mem_map, bne_iff_ne]
  refine forall₂_congr fun p hp => not_congr ?_
  obtain ⟨name', hname'⟩ := h p hp
  rw [pairMember_of_keyName hname']
  exact ⟨fun heq => heq ▸ hname', fun hname => hname.unique hname'⟩

theorem lookup_members_eq_some_iff (h : ∀ p ∈ pairs, ∃ name, KeyName p.1 name) {name : String}
    {v : Value} :
    (pairs.map pairMember).reverse.lookup name = some v ↔ LastNamed name v pairs := by
  induction pairs with
  | nil => exact ⟨nofun, nofun⟩
  | cons p rest ih =>
      obtain ⟨⟨name', hname'⟩, hrest⟩ := List.forall_mem_cons.mp h
      -- Turned around, the members behind `p` come first, and `p` counts if none has the name.
      rw [List.map_cons, List.reverse_cons, List.lookup_append, Option.or_eq_some_iff, ih hrest,
        lookup_members_eq_none_iff hrest, pairMember_of_keyName hname', lookup_member]
      constructor
      · rintro (hlater | ⟨hnone, hhere⟩)
        · exact .later hlater
        · split_ifs at hhere with heq
          · obtain rfl := Option.some.inj hhere
            exact .here (heq ▸ hname') hnone
          · cases hhere
      · intro hlast
        cases hlast with
        | here hname hnone => exact .inr ⟨hnone, if_pos (hname.unique hname')⟩
        | later hlater => exact .inl hlater

/-- Of the members with one name the last is found in the canonical form. -/
theorem lookup_sortMembers_canonical (members : Members) (name : String) :
    (sortMembers (Value.canonicalMembers members)).lookup name
      = (members.reverse.lookup name).map Value.canonical := by
  have hreverse : (Value.canonicalMembers members).reverse
      = Value.canonicalMembers members.reverse := by
    rw [Value.canonicalMembers_eq, Value.canonicalMembers_eq, List.map_reverse]
  rw [lookup_sortMembers, hreverse, Value.lookup_canonicalMembers]

theorem decode_members (hplain : ∀ p ∈ pairs, p.2.Plain)
    (hdepth : ∀ p ∈ pairs, p.2.nesting ≤ 126) :
    decode (Value.object (pairs.map pairMember)).print
      = .ok (.object (sortMembers (Value.canonicalMembers (pairs.map pairMember)))) := by
  have hexact : Value.Exact (.object (pairs.map pairMember)) :=
    .object (List.forall_mem_map.mpr fun p hp => (hplain p hp).toExact)
  have hnesting : (Value.object (pairs.map pairMember)).nesting ≤ nestingLimit :=
    Nat.succ_le_succ (Value.membersNesting_le_iff.mpr (List.forall_mem_map.mpr hdepth))
  rw [decode_print hexact hnesting, Value.canonical, Value.ofMembers]

end

/-- A map cannot be written if and only if one of its keys is null, an array or an object. Of any
other, without doubles, the object is read that has each name once, with the value of the last
pair whose key is written as that name. -/
theorem json_pairs_last_named (path description : String) (pairs : List (Value × Value)) :
    ((∃ e, Fixture.json path (.pairs pairs) description = .error e) ↔
      ∃ p ∈ pairs, Unnamed p.1) ∧
    (∀ e, Fixture.json path (.pairs pairs) description = .error e →
      e.message = "key must be a string" ∧
      (FixtureError.unencodable e).message = "Serialization error: key must be a string") ∧
    ((∀ p ∈ pairs, ¬ Unnamed p.1) →
      (∀ p ∈ pairs, (∀ x, ¬ Value.Part (.number (.double x)) p.1) ∧ p.2.Plain ∧
        p.2.nesting ≤ 126) →
      ∃ fixture members, Fixture.json path (.pairs pairs) description = .ok fixture ∧
        fixture.path = path ∧ fixture.description = description ∧
        decode fixture.body = .ok (.object members) ∧ Sorted members ∧
        (∀ name, (∃ w, members.lookup name = some w) ↔ ∃ p ∈ pairs, KeyName p.1 name) ∧
        ∀ name w, members.lookup name = some w → ∃ v, LastNamed name v pairs ∧ v.Same w) := by
  refine ⟨⟨?_, ?_⟩, ?_, ?_⟩
  · rintro ⟨e, he⟩
    exact json_eq_error_iff.mp he
  · intro hunnamed
    exact ⟨.keyNotString, json_eq_error_iff.mpr hunnamed⟩
  · intro e _
    cases e
    exact ⟨rfl, rfl⟩
  · intro hnamed hpairs
    have hkeys : ∀ p ∈ pairs, ∃ name, KeyName p.1 name := fun p hp =>
      exists_keyName (fun x hx => (hpairs p hp).1 x (hx ▸ .self)) (hnamed p hp)
    have hplain : ∀ p ∈ pairs, p.2.Plain := fun p hp => (hpairs p hp).2.1
    refine ⟨_, _, json_of_named path description hnamed, rfl, rfl,
      decode_members hplain fun p hp => (hpairs p hp).2.2, sorted_sortMembers _, ?_, ?_⟩
    · intro name
      rw [← Option.ne_none_iff_exists', Ne, lookup_sortMembers_canonical, Option.map_eq_none_iff,
        lookup_members_eq_none_iff hkeys]
      simp only [not_forall, not_not, exists_prop]
    · intro name w hw
      rw [lookup_sortMembers_canonical, Option.map_eq_some_iff] at hw
      obtain ⟨v, hv, rfl⟩ := hw
      have hlast := (lookup_members_eq_some_iff hkeys).mp hv
      obtain ⟨k, hk, -⟩ := hlast.exists_pair
      exact ⟨v, hlast, (hplain (k, v) hk).same_canonical⟩

/-- Pairs with four keys, but only two names. -/
def twoNames : List (Value × Value) :=
  [(.string "1", .null), (.boolean true, .string "b"),
    (.number (.integer 1), .array [.boolean false]),
    (.string "true", .object [("z", .null), ("a", .null)])]

/-- The last value of each name is read, and nothing is written with one more key that is null. -/
theorem json_pairs_last_named_twoNames :
    (∃ fixture members w₁ w₂, Fixture.json "/m" (.pairs twoNames) "" = .ok fixture ∧
      decode fixture.body = .ok (.object members) ∧
      members.lookup "1" = some w₁ ∧ Value.Same (.array [.boolean false]) w₁ ∧
      members.lookup "true" = some w₂ ∧ Value.Same (.object [("z", .null), ("a", .null)]) w₂) ∧
    ∃ e, Fixture.json "/m" (.pairs (twoNames ++ [(.null, .null)])) "" = .error e := by
  have hnamed : ∀ p ∈ twoNames, ¬ Unnamed p.1 := by
    simp only [twoNames, List.forall_mem_cons]
    exact ⟨nofun, nofun, nofun, nofun, nofun⟩
  have hpairs : ∀ p ∈ twoNames, (∀ x, ¬ Value.Part (.number (.double x)) p.1) ∧ p.2.Plain ∧
      p.2.nesting ≤ 126 := by
    simp only [twoNames, List.forall_mem_cons]
    refine ⟨⟨nofun, .null, by decide⟩, ⟨nofun, .string "b", by decide⟩, ⟨nofun, ?_, by decide⟩,
      ⟨nofun, ?_, by decide⟩, nofun⟩
    · exact .array (List.forall_mem_singleton.mpr ⟨⟨nofun, nofun⟩, nofun⟩)
    · exact .object (by decide) fun m hm => by
        rcases List.mem_pair.mp hm with rfl | rfl <;> exact .null
  have hone : LastNamed "1" (.array [.boolean false]) twoNames := by
    refine .later (.later (.here (.integer 1) (List.forall_mem_singleton.mpr fun hname => ?_)))
    exact absurd (hname.unique (.string "true")) (by decide)
  have htrue : LastNamed "true" (.object [("z", .null), ("a", .null)]) twoNames :=
    .later (.later (.later (.here (.string "true") nofun)))
  obtain ⟨-, -, hread⟩ := json_pairs_last_named "/m" "" twoNames
  obtain ⟨fixture, members, hfixture, -, -, hdecode, -, hnames, hvalues⟩ := hread hnamed hpairs
  have hfound : ∀ {name v}, LastNamed name v twoNames →
      ∃ w, members.lookup name = some w ∧ v.Same w := by
    intro name v hlast
    obtain ⟨k, hk, hname⟩ := hlast.exists_pair
    obtain ⟨w, hw⟩ := (hnames name).mpr ⟨(k, v), hk, hname⟩
    obtain ⟨v', hlast', hsame⟩ := hvalues name w hw
    exact ⟨w, hw, hlast.unique hlast' ▸ hsame⟩
  obtain ⟨w₁, hw₁, hsame₁⟩ := hfound hone
  obtain ⟨w₂, hw₂, hsame₂⟩ := hfound htrue
  refine ⟨⟨fixture, members, w₁, w₂, hfixture, hdecode, hw₁, hsame₁, hw₂, hsame₂⟩, ?_⟩
  refine (json_pairs_last_named "/m" "" _).1.mpr ⟨(.null, .null), ?_, .null⟩
  exact List.mem_append_right _ (List.mem_singleton.mpr rfl)

end StubHttp.Json
