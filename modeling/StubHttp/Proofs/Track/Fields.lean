import Mathlib.Tactic.SplitIfs
import StubHttp.Track.Decoder
import StubHttp.Proofs.Track.Grammar

/-!
# The fields of a track while its members are read

The members of an object are read one after the other, with the fields found
so far kept in a record. What the record and the members still to come must
have between them is `Completes`: for every field either a value that has been
read and no further member of that name, or no value and exactly one member.

One member does to it what `Adds` says (`completes_cons`), and at the end it
leaves a record with both fields (`completes_nil`). An object is begun with an
empty record, which is complete with just the members that describe a track
(`describes_object_iff`). No reader has to look into the record beyond these
three facts.
-/

namespace StubHttp.Track

open Json

/-! ## Names and records of fields -/

def value (track : Track) : Field → String
  | .artist => track.artist
  | .title => track.title

theorem Field.ofName?_eq_some_iff {name : String} {field : Field} :
    Field.ofName? name = some field ↔ name = field.name := by
  unfold Field.ofName?
  constructor
  · intro h
    split_ifs at h with ha ht
    · cases h
      exact ha
    · cases h
      exact ht
  · rintro rfl
    cases field <;> rfl

theorem Field.ne_name_of_ofName? {name : String} (h : Field.ofName? name = none) (field : Field) :
    name ≠ field.name := by
  intro heq
  rw [Field.ofName?_eq_some_iff.mpr heq] at h
  cases h

theorem Field.name_injective {field field' : Field} (h : field.name = field'.name) :
    field = field' :=
  Option.some.inj ((ofName?_eq_some_iff.mpr rfl).symm.trans (ofName?_eq_some_iff.mpr h))

theorem Field.ofName?_eq_none_iff {m : Member} :
    Field.ofName? m.1 = none ↔ ¬ IsField m := by
  unfold Field.ofName? IsField
  constructor
  · intro h
    split_ifs at h with ha ht
    exact fun hm => hm.elim ha ht
  · intro h
    rw [if_neg (h ∘ .inl), if_neg (h ∘ .inr)]

@[simp] theorem Fields.get?_set_self (fields : Fields) (field : Field) (s : String) :
    (fields.set field s).get? field = some s := by
  cases field <;> rfl

theorem Fields.get?_set_of_ne (fields : Fields) {field field' : Field} (s : String)
    (h : field' ≠ field) : (fields.set field s).get? field' = fields.get? field' := by
  cases field with
  | artist =>
      cases field' with
      | artist => exact absurd rfl h
      | title => rfl
  | title =>
      cases field' with
      | artist => rfl
      | title => exact absurd rfl h

theorem Fields.track_eq_ok_iff {fields : Fields} {track : Track} :
    fields.track = .ok track ↔ ∀ field, fields.get? field = some (track.value field) := by
  obtain ⟨artist?, title?⟩ := fields
  constructor
  · intro h field
    cases artist? with
    | none => cases h
    | some artist =>
        cases title? with
        | none => cases h
        | some title =>
            cases h
            cases field <;> rfl
  · intro h
    obtain rfl : artist? = some track.artist := h .artist
    obtain rfl : title? = some track.title := h .title
    rfl

/-! ## What the members still to come must give -/

/-- What the members still to come must give for one field, depending on what has been read. -/
def Supplies (members : List Member) (field : Field) (s : String) :
    Option String → Prop
  | none => Gives members field.name s
  | some s' => s' = s ∧ members.filter (fun m => m.1 = field.name) = []

/-- The fields read so far and the members still to come make up the track between them. -/
structure Completes (fields : Fields) (members : List Member) (track : Track) :
    Prop where
  supplies (field : Field) : Supplies members field (track.value field) (fields.get? field)
  others : ∀ m ∈ members, ¬ IsField m → WellFormed m.2

/-- What one member adds to the fields read before it. -/
inductive Adds (fields : Fields) (name : String) (literal : List Char) : Fields → Prop
  | other : Field.ofName? name = none → WellFormed literal → Adds fields name literal fields
  | field {field : Field} {s : String} : Field.ofName? name = some field →
      fields.get? field = none → StringLiteral literal s →
      Adds fields name literal (fields.set field s)

theorem describes_object_iff {members : List Member} {track : Track} :
    Describes (.object members) track ↔ Completes .empty members track := by
  constructor
  · rintro (⟨hartist, htitle, hothers⟩ | _)
    refine ⟨fun field => ?_, hothers⟩
    cases field with
    | artist => exact hartist
    | title => exact htitle
  · rintro ⟨hsupplies, hothers⟩
    exact .object (hsupplies .artist) (hsupplies .title) hothers

theorem supplies_nil {field : Field} {s : String} {o : Option String} :
    Supplies [] field s o ↔ o = some s := by
  cases o with
  | none => simp [Supplies, Gives]
  | some s' => simp [Supplies]

theorem supplies_cons_of_ne {name : String} {field : Field} (h : name ≠ field.name)
    (literal : List Char) (members : List Member) {s : String} {o : Option String} :
    Supplies ((name, literal) :: members) field s o ↔ Supplies members field s o := by
  cases o with
  | none => simp [Supplies, Gives, h]
  | some s' => simp [Supplies, h]

theorem supplies_cons_self {field : Field} {literal : List Char}
    {members : List Member} {s : String} {o : Option String} :
    Supplies ((field.name, literal) :: members) field s o ↔
      o = none ∧ StringLiteral literal s ∧ Supplies members field s (some s) := by
  cases o with
  | none =>
      simp only [Supplies, Gives, List.filter_cons_of_pos, decide_true, List.cons.injEq,
        Prod.mk.injEq, true_and]
      constructor
      · rintro ⟨_, ⟨rfl, hnone⟩, hliteral⟩
        exact ⟨hliteral, hnone⟩
      · rintro ⟨hliteral, hnone⟩
        exact ⟨literal, ⟨rfl, hnone⟩, hliteral⟩
  | some s' => simp [Supplies]

theorem completes_nil {fields : Fields} {track : Track} :
    Completes fields [] track ↔ fields.track = .ok track := by
  rw [Fields.track_eq_ok_iff]
  constructor
  · exact fun h field => supplies_nil.mp (h.supplies field)
  · exact fun h => ⟨fun field => supplies_nil.mpr (h field), nofun⟩

theorem completes_cons {fields : Fields} {name : String} {literal : List Char}
    {members : List Member} {track : Track} :
    Completes fields ((name, literal) :: members) track ↔
      ∃ fields', Adds fields name literal fields' ∧ Completes fields' members track := by
  constructor
  · rintro ⟨hsupplies, hothers⟩
    obtain ⟨hother, hrest⟩ := List.forall_mem_cons.mp hothers
    cases hof : Field.ofName? name with
    | none =>
        refine ⟨fields, .other hof (hother (Field.ofName?_eq_none_iff.mp hof)), fun field => ?_,
          hrest⟩
        have hne := Field.ne_name_of_ofName? hof field
        exact (supplies_cons_of_ne hne literal members).mp (hsupplies field)
    | some field =>
        obtain rfl := Field.ofName?_eq_some_iff.mp hof
        obtain ⟨hnone, hliteral, hlast⟩ := supplies_cons_self.mp (hsupplies field)
        refine ⟨fields.set field (track.value field), .field hof hnone hliteral, fun field' => ?_,
          hrest⟩
        -- The field itself has been read now; to the other one nothing has happened.
        by_cases h : field' = field
        · subst h
          rwa [Fields.get?_set_self]
        · rw [Fields.get?_set_of_ne fields _ h]
          exact (supplies_cons_of_ne (h ∘ Field.name_injective ∘ Eq.symm) literal members).mp
            (hsupplies field')
  · rintro ⟨fields', hadds, hsupplies, hothers⟩
    cases hadds with
    | other hof hliteral =>
        refine ⟨fun field => ?_, List.forall_mem_cons.mpr ⟨fun _ => hliteral, hothers⟩⟩
        have hne := Field.ne_name_of_ofName? hof field
        exact (supplies_cons_of_ne hne literal members).mpr (hsupplies field)
    | @field field s hof hnone hliteral =>
        obtain rfl := Field.ofName?_eq_some_iff.mp hof
        have hisField : IsField (field.name, literal) := by
          by_contra h
          rw [Field.ofName?_eq_none_iff.mpr h] at hof
          cases hof
        refine ⟨fun field' => ?_,
          List.forall_mem_cons.mpr ⟨fun h => absurd hisField h, hothers⟩⟩
        have hsupply := hsupplies field'
        by_cases h : field' = field
        · subst h
          rw [Fields.get?_set_self] at hsupply
          obtain ⟨rfl, hlast⟩ := hsupply
          exact supplies_cons_self.mpr ⟨hnone, hliteral, rfl, hlast⟩
        · rw [Fields.get?_set_of_ne fields _ h] at hsupply
          exact (supplies_cons_of_ne (h ∘ Field.name_injective ∘ Eq.symm) literal members).mpr
            hsupply

end StubHttp.Track
