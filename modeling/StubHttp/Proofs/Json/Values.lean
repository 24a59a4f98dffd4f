import Mathlib.Data.List.Forall2
import Mathlib.Data.Option.Basic
import StubHttp.Proofs.Json.Integers
import StubHttp.Proofs.Json.Members

/-!
# Values as trees

What is said about values as they are written and read again: which values are
parts of another (`Value.Part`), how deep it nests (`Value.nesting`), and when
two values are the same although their members stand in another order
(`Value.Same`). Two of the same names would be in the way of that, so the
values of interest have none, and no doubles either (`Value.Plain`).

Among all values that are the same there is one with its members sorted
everywhere, its canonical form (`Value.canonical`, `Value.Plain.same_canonical`).
-/

namespace StubHttp.Json

namespace Value

theorem sizeOf_item_lt {v : Value} {items : List Value} (h : v ∈ items) :
    sizeOf v < sizeOf (Value.array items) := by
  have hlt := List.sizeOf_lt_of_mem h
  simp only [array.sizeOf_spec]
  omega

theorem sizeOf_member_lt {m : String × Value} {members : Members} (h : m ∈ members) :
    sizeOf m.2 < sizeOf (Value.object members) := by
  have hlt := List.sizeOf_lt_of_mem h
  cases m with
  | mk name v =>
      simp only [Prod.mk.sizeOf_spec, object.sizeOf_spec] at hlt ⊢
      omega

/-- Induction over a value and all that it is made of. -/
theorem induct {P : Value → Prop} (null : P .null) (boolean : ∀ b, P (.boolean b))
    (number : ∀ n, P (.number n)) (string : ∀ s, P (.string s))
    (array : ∀ items, (∀ v ∈ items, P v) → P (.array items))
    (object : ∀ members : Members, (∀ m ∈ members, P m.2) → P (.object members)) : ∀ v, P v
  | .null => null
  | .boolean b => boolean b
  | .number n => number n
  | .string s => string s
  | .array items => array items fun v _hv => induct null boolean number string array object v
  | .object members =>
      object members fun m _hm => induct null boolean number string array object m.2
termination_by v => sizeOf v
decreasing_by
  · exact sizeOf_item_lt _hv
  · exact sizeOf_member_lt _hm

/-! ## Parts -/

/-- A value is part of itself and of whatever holds it. -/
inductive Part : Value → Value → Prop
  | self {v : Value} : Part v v
  | item {v w : Value} {items : List Value} : w ∈ items → Part v w → Part v (.array items)
  | member {v : Value} {m : String × Value} {members : Members} : m ∈ members → Part v m.2 →
      Part v (.object members)

/-! ## Nesting -/

mutual

/-- How many arrays and objects are around each other at most. -/
def nesting : Value → Nat
  | .array items => itemsNesting items + 1
  | .object members => membersNesting members + 1
  | _ => 0

def itemsNesting : List Value → Nat
  | [] => 0
  | v :: items => max v.nesting (itemsNesting items)

def membersNesting : Members → Nat
  | [] => 0
  | (_, v) :: members => max v.nesting (membersNesting members)

end

theorem itemsNesting_le_iff {n : Nat} : ∀ {items : List Value},
    itemsNesting items ≤ n ↔ ∀ v ∈ items, v.nesting ≤ n
  | [] => by simp [itemsNesting]
  | v :: items => by
      rw [itemsNesting, Nat.max_le, itemsNesting_le_iff, List.forall_mem_cons]

theorem membersNesting_le_iff {n : Nat} : ∀ {members : Members},
    membersNesting members ≤ n ↔ ∀ m ∈ members, m.2.nesting ≤ n
  | [] => by simp [membersNesting]
  | (_, v) :: members => by
      rw [membersNesting, Nat.max_le, membersNesting_le_iff, List.forall_mem_cons]

/-! ## Canonical forms -/

mutual

/-- The same value with its members in the order of their names everywhere. -/
def canonical : Value → Value
  | .array items => .array (canonicalItems items)
  | .object members => .ofMembers (canonicalMembers members)
  | v => v

def canonicalItems : List Value → List Value
  | [] => []
  | v :: items => v.canonical :: canonicalItems items

def canonicalMembers : Members → Members
  | [] => []
  | (n, v) :: members => (n, v.canonical) :: canonicalMembers members

end

theorem canonicalItems_eq : ∀ items : List Value, canonicalItems items = items.map canonical
  | [] => rfl
  | v :: items => by rw [canonicalItems, canonicalItems_eq items, List.map_cons]

theorem canonicalMembers_eq : ∀ members : Members,
    canonicalMembers members = members.map fun m => (m.1, m.2.canonical)
  | [] => rfl
  | (n, v) :: members => by rw [canonicalMembers, canonicalMembers_eq members, List.map_cons]

/-! ## Sameness -/

/-- Values that differ at most in the order of members: an object is what its names are looked up
as. -/
inductive Same : Value → Value → Prop
  | null : Same .null .null
  | boolean (b : Bool) : Same (.boolean b) (.boolean b)
  | number (n : Number) : Same (.number n) (.number n)
  | string (s : String) : Same (.string s) (.string s)
  | array {items items' : List Value} : List.Forall₂ Same items items' →
      Same (.array items) (.array items')
  | object {members members' : Members} :
      (∀ name, Option.Rel Same (members.lookup name) (members'.lookup name)) →
      Same (.object members) (.object members')

/-- The values without doubles and with integers that are kept: those that can be told from their
text. -/
structure Exact (v : Value) : Prop where
  not_double : ∀ x, ¬ Part (.number (.double x)) v
  inRange : ∀ i, Part (.number (.integer i)) v → InRange i

/-- The exact values in which no name is repeated. -/
structure Plain (v : Value) : Prop extends Exact v where
  nodup : ∀ members, Part (.object members) v → (members.map (·.1)).Nodup

section
variable {v : Value} {items : List Value} {members : Members} {m : String × Value}

theorem Exact.item (h : Exact (.array items)) (hv : v ∈ items) : Exact v where
  not_double x hx := h.not_double x (.item hv hx)
  inRange i hi := h.inRange i (.item hv hi)

theorem Exact.member (h : Exact (.object members)) (hm : m ∈ members) : Exact m.2 where
  not_double x hx := h.not_double x (.member hm hx)
  inRange i hi := h.inRange i (.member hm hi)

theorem Plain.item (h : Plain (.array items)) (hv : v ∈ items) : Plain v where
  toExact := h.toExact.item hv
  nodup members hmembers := h.nodup members (.item hv hmembers)

theorem Plain.member (h : Plain (.object members)) (hm : m ∈ members) : Plain m.2 where
  toExact := h.toExact.member hm
  nodup members hmembers := h.nodup members (.member hm hmembers)

theorem Plain.null : Plain .null := ⟨⟨nofun, nofun⟩, nofun⟩

theorem Plain.string (s : String) : Plain (.string s) := ⟨⟨nofun, nofun⟩, nofun⟩

theorem Plain.integer {i : Int} (h : InRange i) : Plain (.number (.integer i)) where
  not_double := nofun
  inRange j hj := by
    cases hj
    exact h
  nodup := nofun

theorem Plain.array (h : ∀ v ∈ items, Plain v) : Plain (.array items) where
  not_double x hx := by
    cases hx with
    | item hv hx => exact (h _ hv).not_double x hx
  inRange i hi := by
    cases hi with
    | item hv hi => exact (h _ hv).inRange i hi
  nodup members hmembers := by
    cases hmembers with
    | item hv hmembers => exact (h _ hv).nodup members hmembers

theorem Exact.object (h : ∀ m ∈ members, Exact m.2) : Exact (.object members) where
  not_double x hx := by
    cases hx with
    | member hm hx => exact (h _ hm).not_double x hx
  inRange i hi := by
    cases hi with
    | member hm hi => exact (h _ hm).inRange i hi

theorem Plain.object (hnodup : (members.map (·.1)).Nodup) (h : ∀ m ∈ members, Plain m.2) :
    Plain (.object members) where
  toExact := .object fun m hm => (h m hm).toExact
  nodup members' hmembers := by
    cases hmembers with
    | self => exact hnodup
    | member hm hmembers => exact (h _ hm).nodup members' hmembers

theorem mem_of_lookup {name : String} (h : members.lookup name = some v) :
    (name, v) ∈ members := by
  obtain ⟨before, after, rfl, -⟩ := List.lookup_eq_some_iff.mp h
  exact List.mem_append_right _ List.mem_cons_self

end

theorem lookup_canonicalMembers (name : String) : ∀ members : Members,
    (canonicalMembers members).lookup name = (members.lookup name).map canonical
  | [] => rfl
  | (n, v) :: members => by
      rw [canonicalMembers, lookup_member, lookup_member, lookup_canonicalMembers name members]
      split <;> rfl

theorem names_canonicalMembers : ∀ members : Members,
    (canonicalMembers members).map (·.1) = members.map (·.1)
  | [] => rfl
  | (n, v) :: members => by
      rw [canonicalMembers, List.map_cons, names_canonicalMembers members, List.map_cons]

/-- Sorting members is no change to a value without repeated names. -/
theorem Plain.same_canonical {v : Value} (h : v.Plain) : v.Same v.canonical := by
  induction v using Value.induct with
  | null => exact .null
  | boolean b => exact .boolean b
  | number n => exact .number n
  | string s => exact .string s
  | array items ih =>
      rw [canonical, canonicalItems_eq]
      refine .array (List.forall₂_map_right_iff.mpr (List.forall₂_same.mpr fun v hv => ?_))
      exact ih v hv (h.item hv)
  | object members ih =>
      rw [canonical, ofMembers]
      refine .object fun name => ?_
      have hnodup : ((canonicalMembers members).map (·.1)).Nodup := by
        rw [names_canonicalMembers]
        exact h.nodup members .self
      rw [lookup_sortMembers, lookup_reverse hnodup, lookup_canonicalMembers]
      cases hlookup : members.lookup name with
      | none => exact .none
      | some v =>
          have hmember := mem_of_lookup hlookup
          exact .some (ih _ hmember (h.member hmember))

/-- A value with its members in order everywhere is its own canonical form. -/
theorem canonical_of_sorted {v : Value} (h : ∀ members, Part (.object members) v → Sorted members) :
    v.canonical = v := by
  induction v using Value.induct with
  | null => rfl
  | boolean b => rfl
  | number n => rfl
  | string s => rfl
  | array items ih =>
      rw [canonical, canonicalItems_eq]
      refine congrArg array ((List.map_congr_left fun v hv => ?_).trans (List.map_id items))
      exact ih v hv fun members hmembers => h members (.item hv hmembers)
  | object members ih =>
      have hmembers : canonicalMembers members = members := by
        rw [canonicalMembers_eq]
        refine (List.map_congr_left fun m hm => ?_).trans (List.map_id members)
        have hv := ih m hm fun members' hmembers' => h members' (.member hm hmembers')
        exact Prod.ext rfl hv
      rw [canonical, hmembers, ofMembers, sortMembers_of_sorted (h members .self)]

end Value

end StubHttp.Json
