import StubHttp.Proofs.Json.Gather
import StubHttp.Proofs.Json.Skip
import StubHttp.Proofs.Json.Values

/-!
# Reading values

What `valueWithin` makes of a value that has been written, and what is known of
a value that it has made of any text.

A written value is read in its canonical form if the levels suffice, and
refused as too deep if they do not (`Value.reread`, `reads_text`). Both cases
are proved at once by induction on the value, since a list is too deep as soon
as one of its items is: what is read of the items is then the same loop over
what they are reread as.

A value that has been read needs no more levels than there were, holds integers
only as far as they are kept, and has its members in order everywhere
(`Value.Held`, `held_of_valueWithin`). This is an induction on the levels.
-/

namespace StubHttp.Json

namespace Value

/-! ## What is made of a written value -/

/-- What is read where a value has been written: its canonical form, unless it nests too deep. -/
def reread (depth : Nat) (v : Value) : Except Problem Value :=
  if v.nesting ≤ depth then .ok v.canonical else .error .tooDeep

theorem reread_of_flat {v : Value} (hnesting : v.nesting = 0) (hcanonical : v.canonical = v)
    (depth : Nat) : v.reread depth = .ok v := by
  rw [reread, hnesting, hcanonical, if_pos (Nat.zero_le depth)]

theorem mapM_reread (depth : Nat) (items : List Value) : items.mapM (reread depth)
    = if itemsNesting items ≤ depth then .ok (canonicalItems items) else .error .tooDeep := by
  rw [canonicalItems_eq]
  exact (mapM_ite canonical Problem.tooDeep items).trans
    (if_congr itemsNesting_le_iff.symm rfl rfl)

def rereadMember (depth : Nat) (m : String × Value) : Except Problem (String × Value) :=
  (m.2.reread depth).map (m.1, ·)

theorem mapM_rereadMember (depth : Nat) (members : Members) : members.mapM (rereadMember depth)
    = if membersNesting members ≤ depth then .ok (canonicalMembers members)
      else .error .tooDeep := by
  have hmember : ∀ m : String × Value, rereadMember depth m
      = if m.2.nesting ≤ depth then .ok (m.1, m.2.canonical) else .error .tooDeep := by
    intro m
    rw [rereadMember, reread]
    split <;> rfl
  rw [canonicalMembers_eq, funext hmember]
  exact (mapM_ite (fun m => (m.1, m.2.canonical)) Problem.tooDeep members).trans
    (if_congr membersNesting_le_iff.symm rfl rfl)

theorem reread_array_zero (items : List Value) : (array items).reread 0 = .error .tooDeep :=
  if_neg (Nat.not_succ_le_zero _)

theorem reread_array_succ (depth : Nat) (items : List Value) :
    (array items).reread (depth + 1) = (items.mapM (reread depth)).map .array := by
  rw [mapM_reread, reread, nesting, canonical]
  by_cases h : itemsNesting items ≤ depth
  · rw [if_pos h, if_pos (Nat.succ_le_succ h)]
    rfl
  · rw [if_neg h, if_neg fun h' => h (Nat.le_of_succ_le_succ h')]
    rfl

theorem reread_object_zero (members : Members) :
    (object members).reread 0 = .error .tooDeep :=
  if_neg (Nat.not_succ_le_zero _)

theorem reread_object_succ (depth : Nat) (members : Members) :
    (object members).reread (depth + 1) = (members.mapM (rereadMember depth)).map .ofMembers := by
  rw [mapM_rereadMember, reread, nesting, canonical]
  by_cases h : membersNesting members ≤ depth
  · rw [if_pos h, if_pos (Nat.succ_le_succ h)]
    rfl
  · rw [if_neg h, if_neg fun h' => h (Nat.le_of_succ_le_succ h')]
    rfl

end Value

/-! ## Values by their first character -/

theorem valueWithin_blanks {b : List Char} (hb : Blank b) (depth : Nat) (cs : List Char) :
    valueWithin depth (b ++ cs) = valueWithin depth cs := by
  unfold valueWithin
  rw [skipBlanks_append hb]

/-- Which kind of value it is, is decided by its first character. -/
theorem valueWithin_cons {c : Char} (hc : isBlank c = false) (depth : Nat) (cs : List Char) :
    valueWithin depth (c :: cs) =
      if c = 'n' then word ['u', 'l', 'l'] cs >>= fun rest => .ok (.null, rest)
      else if c = 't' then word ['r', 'u', 'e'] cs >>= fun rest => .ok (.boolean true, rest)
      else if c = 'f' then word ['a', 'l', 's', 'e'] cs >>= fun rest => .ok (.boolean false, rest)
      else if c = '"' then string cs >>= fun read => .ok (.string (String.ofList read.1), read.2)
      else if c = '-' then number true cs >>= fun read => .ok (.number read.1, read.2)
      else if c.isDigit then number false (c :: cs) >>= fun read => .ok (.number read.1, read.2)
      else if c = '[' then
        match depth with
        | 0 => .error (.next .tooDeep (c :: cs))
        | depth + 1 =>
          itemsWithin (valueWithin depth) cs true cs >>= fun read => .ok (.array read.1, read.2)
      else if c = '\x7b' then
        match depth with
        | 0 => .error (.next .tooDeep (c :: cs))
        | depth + 1 =>
          membersWithin (valueWithin depth) cs true cs >>= fun read =>
            .ok (.ofMembers read.1, read.2)
      else .error (.next .expectedValue (c :: cs)) := by
  unfold valueWithin
  rw [skipBlanks_cons hc]
  rfl

section
variable (depth : Nat) {cs rest : List Char}

theorem valueWithin_string {s : String} (h : string cs = .ok (s.toList, rest)) :
    valueWithin depth ('"' :: cs) = .ok (.string s, rest) := by
  rw [valueWithin_cons rfl, if_neg (by decide), if_neg (by decide), if_neg (by decide), if_pos rfl,
    h, ok_bind, String.ofList_toList]

theorem valueWithin_negative {x : Number} (h : number true cs = .ok (x, rest)) :
    valueWithin depth ('-' :: cs) = .ok (.number x, rest) := by
  rw [valueWithin_cons rfl, if_neg (by decide), if_neg (by decide), if_neg (by decide),
    if_neg (by decide), if_pos rfl, h, ok_bind]

theorem valueWithin_digit {c : Char} {x : Number} (hc : c.isDigit = true)
    (h : number false (c :: cs) = .ok (x, rest)) :
    valueWithin depth (c :: cs) = .ok (.number x, rest) := by
  have hne : ∀ d : Char, d.isDigit = false → c ≠ d := by
    rintro d hd rfl
    rw [hd] at hc
    cases hc
  rw [valueWithin_cons (Digit.not_blank hc), if_neg (hne _ rfl), if_neg (hne _ rfl),
    if_neg (hne _ rfl), if_neg (hne _ rfl), if_neg (hne _ rfl), if_pos hc, h, ok_bind]

/-- No bracket is opened where no level is left. -/
theorem valueWithin_tooDeep {c : Char} (hc : c = '[' ∨ c = '\x7b') :
    valueWithin 0 (c :: cs) = .error (.next .tooDeep (c :: cs)) := by
  rcases hc with rfl | rfl
  · rw [valueWithin_cons rfl]
    rfl
  · rw [valueWithin_cons rfl]
    rfl

theorem valueWithin_array : valueWithin (depth + 1) ('[' :: cs)
    = itemsWithin (valueWithin depth) cs true cs >>= fun read => .ok (.array read.1, read.2) := by
  rw [valueWithin_cons rfl]
  rfl

theorem valueWithin_object : valueWithin (depth + 1) ('\x7b' :: cs)
    = membersWithin (valueWithin depth) cs true cs >>= fun read =>
        .ok (.ofMembers read.1, read.2) := by
  rw [valueWithin_cons rfl]
  rfl

end

/-! ## What has been written -/

theorem starts_text {v : Value} (h : v.Exact) : Starts v.text := by
  cases v with
  | null => exact ⟨_, _, rfl, by decide⟩
  | boolean b => cases b <;> exact ⟨_, _, rfl, by decide⟩
  | number n =>
      rw [Value.text]
      cases n with
      | double x => exact absurd .self (h.not_double x)
      | integer i =>
          rw [Number.text]
          rcases number_integerText (h.inRange i .self) .nil with
            ⟨ds, htext, -⟩ | ⟨c, ds, htext, hc, -⟩
          · exact ⟨_, _, htext, by decide⟩
          · refine ⟨c, ds, htext, Digit.not_blank hc, ?_, ?_⟩ <;> rintro rfl <;> cases hc
  | string s => exact ⟨_, _, rfl, by decide⟩
  | array items => exact ⟨_, _, rfl, by decide⟩
  | object members => exact ⟨_, _, rfl, by decide⟩

theorem reads_of_valueWithin {depth : Nat} {text : List Char} {r : Except Problem Value}
    (h : ∀ rest, EndsNumber rest →
      (valueWithin depth (text ++ rest)).mapError Fault.problem = r.map (·, rest)) :
    Reads (valueWithin depth) text r := by
  intro b rest hb hrest
  rw [List.append_assoc, valueWithin_blanks hb, h rest hrest]

/-- Written items are gathered until one of them nests too deep. -/
theorem itemsWithin_itemsText {depth : Nat} {items : List Value} {inner : List Char}
    (rest : List Char) (hinner : Items ']' true inner (items.map Value.text))
    (hitems : ∀ v ∈ items, Starts v.text ∧ Reads (valueWithin depth) v.text (v.reread depth)) :
    (itemsWithin (valueWithin depth) (inner ++ rest) true (inner ++ rest)).mapError Fault.problem
      = (items.mapM (Value.reread depth)).map (·, rest) := by
  have hnone : ∀ {first : Bool} {b rest : List Char}, Blank b →
      item? first (b ++ ']' :: rest) = .ok none :=
    fun hb => item?_separator.none_iff.mpr ⟨_, _, hb, rfl⟩
  rw [itemsWithin_eq]
  refine gatherWithin_append (.inl rfl) hnone hinner rest ?_ (by simp)
  refine List.forall₂_map_left_iff.mpr (List.forall₂_same.mpr fun v hv => ?_)
  obtain ⟨hstarts, hreads⟩ := hitems v hv
  exact gathers_item hstarts hreads

theorem membersWithin_membersText {depth : Nat} {members : Members} {inner : List Char}
    (rest : List Char) (hinner : Items '\x7d' true inner (members.map memberText))
    (hmembers : ∀ m ∈ members, Reads (valueWithin depth) m.2.text (m.2.reread depth)) :
    (membersWithin (valueWithin depth) (inner ++ rest) true (inner ++ rest)).mapError Fault.problem
      = (members.mapM (Value.rereadMember depth)).map (·, rest) := by
  have hnone : ∀ {first : Bool} {b rest : List Char}, Blank b →
      member? first (b ++ '\x7d' :: rest) = .ok none :=
    fun hb => member?_eq_none_iff.mpr ⟨_, _, hb, rfl⟩
  rw [membersWithin_eq]
  refine gatherWithin_append (.inr rfl) hnone hinner rest ?_ (by simp)
  refine List.forall₂_map_left_iff.mpr (List.forall₂_same.mpr fun m hm => ?_)
  exact gathers_member m.1 (hmembers m hm)

/-- An exact value is read where it has been written, unless it nests too deep. -/
theorem reads_text {v : Value} (h : v.Exact) (depth : Nat) :
    Reads (valueWithin depth) v.text (v.reread depth) := by
  induction v using Value.induct generalizing depth with
  | null =>
      refine reads_of_valueWithin fun rest _ => ?_
      rw [Value.reread_of_flat rfl rfl, Value.text, List.cons_append, valueWithin_cons rfl]
      rfl
  | boolean b =>
      refine reads_of_valueWithin fun rest _ => ?_
      rw [Value.reread_of_flat rfl rfl]
      cases b with
      | false =>
          rw [Value.text, List.cons_append, valueWithin_cons rfl]
          rfl
      | true =>
          rw [Value.text, List.cons_append, valueWithin_cons rfl]
          rfl
  | number n =>
      refine reads_of_valueWithin fun rest hrest => ?_
      rw [Value.reread_of_flat rfl rfl, Value.text]
      cases n with
      | double x => exact absurd .self (h.not_double x)
      | integer i =>
          rw [Number.text]
          rcases number_integerText (h.inRange i .self) hrest with
            ⟨ds, htext, hread⟩ | ⟨c, ds, htext, hc, hread⟩
          · rw [htext, List.cons_append, valueWithin_negative depth hread]
            rfl
          · rw [List.cons_append] at hread
            rw [htext, List.cons_append, valueWithin_digit depth hc hread]
            rfl
  | string s =>
      refine reads_of_valueWithin fun rest _ => ?_
      have hstring : string (s.toList.flatMap escapeChar ++ '"' :: rest) = .ok (s.toList, rest) :=
        string_eq_ok_iff.mpr ⟨_, spells_flatMap_escapeChar s.toList, rfl⟩
      rw [Value.reread_of_flat rfl rfl, Value.text, quote, List.append_assoc]
      exact congrArg (Except.mapError Fault.problem) (valueWithin_string depth hstring)
  | array items ih =>
      refine reads_of_valueWithin fun rest _ => ?_
      obtain ⟨inner, htext, hinner⟩ := bracketed_array items
      rw [htext, List.cons_append]
      -- The bracket takes a level; whether those that are left suffice is up to the items.
      cases depth with
      | zero =>
          rw [valueWithin_tooDeep (.inl rfl), Value.reread_array_zero]
          rfl
      | succ depth =>
          have hread := itemsWithin_itemsText rest hinner fun v hv =>
            ⟨starts_text (h.item hv), ih v hv (h.item hv) depth⟩
          rw [valueWithin_array, mapError_bind, hread, Value.reread_array_succ]
          cases items.mapM (Value.reread depth) <;> rfl
  | object members ih =>
      refine reads_of_valueWithin fun rest _ => ?_
      obtain ⟨inner, htext, hinner⟩ := bracketed_object members
      rw [htext, List.cons_append]
      cases depth with
      | zero =>
          rw [valueWithin_tooDeep (.inr rfl), Value.reread_object_zero]
          rfl
      | succ depth =>
          have hread := membersWithin_membersText rest hinner fun m hm =>
            ih m hm (h.member hm) depth
          rw [valueWithin_object, mapError_bind, hread, Value.reread_object_succ]
          cases members.mapM (Value.rereadMember depth) <;> rfl

/-! ## What can be read -/

namespace Value

/-- The values that hold no others. -/
inductive Flat : Value → Prop
  | null : Flat .null
  | boolean (b : Bool) : Flat (.boolean b)
  | number {n : Number} : n.Kept → Flat (.number n)
  | string (s : String) : Flat (.string s)

/-- What is known of a value that has been read with some levels left: it needs no more of them,
its integers are kept ones, and its members are in order. -/
structure Held (depth : Nat) (v : Value) : Prop where
  nesting_le : v.nesting ≤ depth
  inRange : ∀ i, Part (.number (.integer i)) v → InRange i
  sorted : ∀ members, Part (.object members) v → Sorted members

theorem Flat.held {v : Value} (h : v.Flat) (depth : Nat) : v.Held depth := by
  cases h with
  | null => exact ⟨Nat.zero_le _, nofun, nofun⟩
  | boolean b => exact ⟨Nat.zero_le _, nofun, nofun⟩
  | number h =>
      refine ⟨Nat.zero_le _, fun i hi => ?_, nofun⟩
      cases hi
      cases h with
      | integer h => exact h
  | string s => exact ⟨Nat.zero_le _, nofun, nofun⟩

theorem held_array {depth : Nat} {items : List Value} (h : ∀ v ∈ items, v.Held depth) :
    (array items).Held (depth + 1) where
  nesting_le := by
    rw [nesting]
    exact Nat.succ_le_succ (itemsNesting_le_iff.mpr fun v hv => (h v hv).nesting_le)
  inRange i hi := by
    cases hi with
    | item hv hi => exact (h _ hv).inRange i hi
  sorted members hmembers := by
    cases hmembers with
    | item hv hmembers => exact (h _ hv).sorted members hmembers

theorem held_ofMembers {depth : Nat} {members : Members} (h : ∀ m ∈ members, m.2.Held depth) :
    (ofMembers members).Held (depth + 1) where
  nesting_le := by
    rw [ofMembers, nesting]
    exact Nat.succ_le_succ (membersNesting_le_iff.mpr fun m hm =>
      (h m (mem_of_mem_sortMembers hm)).nesting_le)
  inRange i hi := by
    cases hi with
    | member hm hi => exact (h _ (mem_of_mem_sortMembers hm)).inRange i hi
  sorted members' hmembers := by
    cases hmembers with
    | self => exact sorted_sortMembers members
    | member hm hmembers => exact (h _ (mem_of_mem_sortMembers hm)).sorted members' hmembers

end Value

/-- A value is read as a whole, or item by item with one level less. -/
theorem valueWithin_cases {depth : Nat} {cs rest : List Char} {v : Value}
    (h : valueWithin depth cs = .ok (v, rest)) : v.Flat ∨
    (∃ left items bound text, depth = left + 1 ∧ v = .array items ∧
      itemsWithin (valueWithin left) bound true text = .ok (items, rest)) ∨
    ∃ left members bound text, depth = left + 1 ∧ v = .ofMembers members ∧
      membersWithin (valueWithin left) bound true text = .ok (members, rest) := by
  unfold valueWithin at h
  split at h
  · cases h
  · split_ifs at h
    · obtain ⟨left, -, h⟩ := bind_eq_ok_iff.mp h
      obtain ⟨rfl, -⟩ := Prod.mk.inj (pure_eq_ok_iff.mp h)
      exact .inl .null
    · obtain ⟨left, -, h⟩ := bind_eq_ok_iff.mp h
      obtain ⟨rfl, -⟩ := Prod.mk.inj (pure_eq_ok_iff.mp h)
      exact .inl (.boolean true)
    · obtain ⟨left, -, h⟩ := bind_eq_ok_iff.mp h
      obtain ⟨rfl, -⟩ := Prod.mk.inj (pure_eq_ok_iff.mp h)
      exact .inl (.boolean false)
    · obtain ⟨⟨s, left⟩, -, h⟩ := bind_eq_ok_iff.mp h
      obtain ⟨rfl, -⟩ := Prod.mk.inj (pure_eq_ok_iff.mp h)
      exact .inl (.string _)
    · obtain ⟨⟨x, left⟩, hx, h⟩ := bind_eq_ok_iff.mp h
      obtain ⟨rfl, -⟩ := Prod.mk.inj (pure_eq_ok_iff.mp h)
      exact .inl (.number (kept_of_number hx))
    · obtain ⟨⟨x, left⟩, hx, h⟩ := bind_eq_ok_iff.mp h
      obtain ⟨rfl, -⟩ := Prod.mk.inj (pure_eq_ok_iff.mp h)
      exact .inl (.number (kept_of_number hx))
    · split at h
      · cases h
      · obtain ⟨⟨items, left⟩, hitems, h⟩ := bind_eq_ok_iff.mp h
        obtain ⟨rfl, rfl⟩ := Prod.mk.inj (pure_eq_ok_iff.mp h)
        exact .inr (.inl ⟨_, items, _, _, rfl, rfl, hitems⟩)
    · split at h
      · cases h
      · obtain ⟨⟨members, left⟩, hmembers, h⟩ := bind_eq_ok_iff.mp h
        obtain ⟨rfl, rfl⟩ := Prod.mk.inj (pure_eq_ok_iff.mp h)
        exact .inr (.inr ⟨_, members, _, _, rfl, rfl, hmembers⟩)

theorem held_of_valueWithin {depth : Nat} : ∀ {cs rest : List Char} {v : Value},
    valueWithin depth cs = .ok (v, rest) → v.Held depth := by
  induction depth with
  | zero =>
      intro cs rest v h
      rcases valueWithin_cases h with hflat | ⟨left, _, _, _, heq, -⟩ | ⟨left, _, _, _, heq, -⟩
      · exact hflat.held 0
      · cases heq
      · cases heq
  | succ depth ih =>
      intro cs rest v h
      rcases valueWithin_cases h with hflat | ⟨left, items, bound, text, heq, rfl, hitems⟩ |
        ⟨left, members, bound, text, heq, rfl, hmembers⟩
      · exact hflat.held (depth + 1)
      · cases heq
        rw [itemsWithin_eq] at hitems
        exact Value.held_array (forall_of_gatherWithin ih hitems)
      · cases heq
        rw [membersWithin_eq] at hmembers
        refine Value.held_ofMembers (forall_of_gatherWithin (fun {cs m rest} hm => ?_) hmembers)
        obtain ⟨key, -, hm⟩ := bind_eq_ok_iff.mp hm
        obtain ⟨text, -, hm⟩ := bind_eq_ok_iff.mp hm
        obtain ⟨⟨w, left⟩, hw, hm⟩ := bind_eq_ok_iff.mp hm
        obtain ⟨rfl, -⟩ := Prod.mk.inj (pure_eq_ok_iff.mp hm)
        exact ih hw

end StubHttp.Json
