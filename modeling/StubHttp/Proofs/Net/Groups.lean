import StubHttp.Proofs.Net.IPv4

/-!
# Rows of groups

A row of groups is read as far as it goes: to the end of the text, or to a
double colon (`EndsRow`). Before each group the reader looks for an IPv4
address, but that has dots in it, and groups are written without
(`mem_groupText`). So a row that is followed by no dot is read back group by
group (`row_groupsText`).

Every group that is read costs a colon, except for the first one and for the
second of the two that an IPv4 address is worth (`length_row_le`).
-/

namespace StubHttp.Net

open Text

/-! ## Groups -/

abbrev isHexDigit (c : Char) : Bool := (hexValue? c).isSome

/-- The digits of a group are hexadecimal, and letters are in lower case. -/
theorem mem_groupText {g : UInt16} {c : Char} (hc : c ∈ groupText g) :
    c ∈ "0123456789abcdef".toList := by
  obtain ⟨d, hd, rfl⟩ := exists_digit_of_mem_toDigits (by decide) hc
  have hdigits : ∀ d < 16, Nat.digitChar d ∈ "0123456789abcdef".toList := by decide
  exact hdigits d hd

theorem isHexDigit_of_mem_groupText {g : UInt16} {c : Char} (hc : c ∈ groupText g) :
    isHexDigit c = true := by
  obtain ⟨d, hd, rfl⟩ := exists_digit_of_mem_toDigits (by decide) hc
  rw [isHexDigit, hexValue?_digitChar d hd]
  rfl

theorem groupText_ne_nil (g : UInt16) : groupText g ≠ [] :=
  Nat.toDigits_ne_nil

theorem length_groupText (g : UInt16) : (groupText g).length ≤ 4 := by
  rw [groupText, Nat.length_toDigits_le_iff (by decide) (by decide)]
  have hg := g.toNat_lt
  omega

theorem stops_colon (cs : List Char) : Stops isHexDigit (':' :: cs) :=
  stops_cons rfl cs

theorem hexNumber_toDigits (n : Nat) : hexNumber 0 (Nat.toDigits 16 n) = n := by
  induction n using Nat.strongRecOn with
  | ind n ih =>
      by_cases hlt : n < 16
      · rw [Nat.toDigits_of_lt_base hlt]
        simp [hexNumber, hexValue?_digitChar n hlt]
      · have hrest := ih (n / 16) (by omega)
        rw [hexNumber] at hrest
        rw [Nat.toDigits_of_base_le (by decide) (Nat.not_lt.mp hlt), hexNumber, List.foldl_append,
          hrest]
        have hlast := hexValue?_digitChar (n % 16) (Nat.mod_lt n (by decide))
        simp only [List.foldl_cons, List.foldl_nil, hlast, Option.getD_some]
        omega

theorem group?_groupText (g : UInt16) {rest : List Char} (hrest : Stops isHexDigit rest) :
    group? (groupText g ++ rest) = some (g, rest) := by
  have hds : (groupText g ++ rest).takeWhile isHexDigit = groupText g :=
    takeWhile_append_of_stops (fun c => isHexDigit_of_mem_groupText) hrest
  have hvalue : hexNumber 0 (groupText g) = g.toNat := hexNumber_toDigits g.toNat
  have hbits : g.toNat.toUInt16 = g := UInt16.ofNat_toNat
  rw [group?, hds, hvalue, if_neg, hbits, List.drop_left]
  simp only [not_or, List.isEmpty_iff]
  exact ⟨groupText_ne_nil g, Nat.not_lt.mpr (length_groupText g)⟩

theorem group?_of_stops {cs : List Char} (h : Stops isHexDigit cs) : group? cs = none := by
  have hds : cs.takeWhile isHexDigit = [] := takeWhile_of_stops h
  rw [group?, hds, if_pos (.inl rfl)]

/-! ## One step of a row -/

theorem row_of_ipv4 {room : Nat} {first : Bool} {cs rest : List Char} {ip : IPv4}
    (hroom : 0 < room) (h : inRow? first ipv4? cs = some (ip, rest)) :
    row (room + 1) first cs = (⟨ip.groups, true⟩, rest) := by
  rw [row, if_pos hroom, h]

theorem row_of_group {room : Nat} {first : Bool} {cs rest : List Char} {g : UInt16}
    (hipv4 : inRow? first ipv4? cs = none) (h : inRow? first group? cs = some (g, rest)) :
    row (room + 1) first cs
      = (⟨g :: (row room false rest).1.groups, (row room false rest).1.endsInIPv4⟩,
        (row room false rest).2) := by
  rw [row, hipv4, ite_self, h]

theorem row_of_none {room : Nat} {first : Bool} {cs : List Char}
    (hipv4 : inRow? first ipv4? cs = none) (h : inRow? first group? cs = none) :
    row room first cs = (⟨[], false⟩, cs) := by
  cases room with
  | zero => rfl
  | succ room => rw [row, hipv4, ite_self, h]

theorem inRow?_ipv4?_of_noDot {cs : List Char} (h : '.' ∉ cs) (first : Bool) :
    inRow? first ipv4? cs = none := by
  cases first with
  | true => exact ipv4?_of_noDot h
  | false =>
      cases cs with
      | nil => rfl
      | cons c cs =>
          have hnone := ipv4?_of_noDot fun hdot => h (List.mem_cons_of_mem c hdot)
          rw [inRow?, if_neg (by decide), after?, hnone, ite_self]

/-! ## Rows read back -/

/-- Where a row of groups ends: with the text, or in front of a double colon. -/
def EndsRow (cs : List Char) : Prop :=
  cs = [] ∨ ∃ more, cs = ':' :: ':' :: more

theorem EndsRow.stops {cs : List Char} (h : EndsRow cs) : Stops isHexDigit cs := by
  rcases h with rfl | ⟨more, rfl⟩
  · exact stops_nil
  · exact stops_colon _

theorem EndsRow.inRow?_group? {cs : List Char} (h : EndsRow cs) (first : Bool) :
    inRow? first group? cs = none := by
  cases first with
  | true => exact group?_of_stops h.stops
  | false =>
      rcases h with rfl | ⟨more, rfl⟩
      · rfl
      · exact group?_of_stops (stops_colon more)

/-- The text of groups that stand behind another one. -/
def tailText (gs : List UInt16) : List Char :=
  gs.flatMap fun g => ':' :: groupText g

theorem groupsText_cons (g : UInt16) (gs : List UInt16) :
    groupsText (g :: gs) = groupText g ++ tailText gs := by
  induction gs generalizing g with
  | nil => simp [groupsText, tailText]
  | cons h gs ih =>
      have hrest := ih h
      rw [groupsText, List.map_cons] at hrest
      rw [groupsText, List.map_cons, List.map_cons, List.intercalate_cons_cons, hrest]
      simp [tailText]

theorem mem_tailText {gs : List UInt16} {c : Char} (hc : c ∈ tailText gs) :
    c ∈ "0123456789abcdef:".toList := by
  obtain ⟨g, -, hc⟩ := List.mem_flatMap.mp hc
  rcases List.mem_cons.mp hc with rfl | hc
  · decide
  · have hdigits : "0123456789abcdef".toList ⊆ "0123456789abcdef:".toList := by decide
    exact hdigits (mem_groupText hc)

theorem mem_groupsText {gs : List UInt16} {c : Char} (hc : c ∈ groupsText gs) :
    c ∈ "0123456789abcdef:".toList := by
  cases gs with
  | nil => exact absurd hc List.not_mem_nil
  | cons g gs =>
      -- Behind a colon it would be the text of a tail.
      have htail : tailText (g :: gs) = ':' :: groupsText (g :: gs) := by
        rw [groupsText_cons]
        rfl
      exact mem_tailText (htail ▸ List.mem_cons_of_mem ':' hc)

theorem noDot_tailText (gs : List UInt16) : '.' ∉ tailText gs := fun hdot =>
  absurd (mem_tailText hdot) (by decide)

theorem noDot_groupsText (gs : List UInt16) : '.' ∉ groupsText gs := fun hdot =>
  absurd (mem_groupsText hdot) (by decide)

theorem stops_tailText (gs : List UInt16) {rest : List Char} (hrest : EndsRow rest) :
    Stops isHexDigit (tailText gs ++ rest) := by
  cases gs with
  | nil => exact hrest.stops
  | cons g gs => exact stops_colon _

theorem row_tailText : ∀ {gs : List UInt16} {room : Nat} {rest : List Char}, gs.length ≤ room →
    '.' ∉ rest → EndsRow rest → row room false (tailText gs ++ rest) = (⟨gs, false⟩, rest)
  | [], room, rest, _, hdot, hrest =>
      row_of_none (inRow?_ipv4?_of_noDot hdot false) (hrest.inRow?_group? false)
  | g :: gs, room + 1, rest, hroom, hdot, hrest => by
      have hdots : '.' ∉ tailText (g :: gs) ++ rest := by
        rw [List.mem_append, not_or]
        exact ⟨noDot_tailText _, hdot⟩
      have hsplit : tailText (g :: gs) ++ rest = ':' :: (groupText g ++ (tailText gs ++ rest)) := by
        simp [tailText]
      have hgroup : inRow? false group? (tailText (g :: gs) ++ rest)
          = some (g, tailText gs ++ rest) := by
        rw [hsplit]
        exact group?_groupText g (stops_tailText gs hrest)
      rw [row_of_group (inRow?_ipv4?_of_noDot hdots false) hgroup,
        row_tailText (Nat.le_of_succ_le_succ hroom) hdot hrest]

/-- A row of groups is read back if there is room for it. -/
theorem row_groupsText {gs : List UInt16} {room : Nat} {rest : List Char} (hroom : gs.length ≤ room)
    (hdot : '.' ∉ rest) (hrest : EndsRow rest) :
    row room true (groupsText gs ++ rest) = (⟨gs, false⟩, rest) := by
  cases gs with
  | nil => exact row_of_none (inRow?_ipv4?_of_noDot hdot true) (hrest.inRow?_group? true)
  | cons g gs =>
      obtain ⟨room, rfl⟩ := Nat.exists_eq_succ_of_ne_zero (Nat.ne_zero_of_lt hroom)
      have hdots : '.' ∉ groupsText (g :: gs) ++ rest := by
        rw [List.mem_append, not_or]
        exact ⟨noDot_groupsText _, hdot⟩
      have hgroup : inRow? true group? (groupsText (g :: gs) ++ rest)
          = some (g, tailText gs ++ rest) := by
        rw [groupsText_cons, List.append_assoc]
        exact group?_groupText g (stops_tailText gs hrest)
      rw [row_of_group (inRow?_ipv4?_of_noDot hdots true) hgroup,
        row_tailText (Nat.le_of_succ_le_succ hroom) hdot hrest]

/-! ## Colons -/

theorem suffix_of_group? {cs rest : List Char} {g : UInt16} (h : group? cs = some (g, rest)) :
    rest <:+ cs := by
  rw [group?] at h
  split at h
  · cases h
  · obtain ⟨-, rfl⟩ := Prod.mk.inj (Option.some.inj h)
    exact List.drop_suffix _ _

theorem suffix_of_ipv4? {cs rest : List Char} {ip : IPv4} (h : ipv4? cs = some (ip, rest)) :
    rest <:+ cs := by
  obtain ⟨rfl, -⟩ := ipv4?_eq_some_iff.mp h
  exact List.suffix_append _ _

theorem count_colon_of_inRow? {α : Type} {reader : List Char → Option (α × List Char)}
    (hreader : ∀ {cs rest a}, reader cs = some (a, rest) → rest <:+ cs) {first : Bool}
    {cs rest : List Char} {a : α} (h : inRow? first reader cs = some (a, rest)) :
    rest.count ':' + 1 ≤ cs.count ':' + first.toNat := by
  cases first with
  | true => exact Nat.succ_le_succ ((hreader h).sublist.count_le ':')
  | false =>
      obtain ⟨cs', rfl, h⟩ := after?_eq_some_iff.mp h
      rw [List.count_cons_self]
      exact Nat.succ_le_succ ((hreader h).sublist.count_le ':')

theorem length_row_le : ∀ (room : Nat) (first : Bool) (cs : List Char),
    (row room first cs).1.groups.length - first.toNat - (row room first cs).1.endsInIPv4.toNat
      + (row room first cs).2.count ':' ≤ cs.count ':'
  | 0, first, cs => by simp [row]
  | room + 1, first, cs => by
      rw [row]
      split
      · next ip rest h =>
        have hipv4 : inRow? first ipv4? cs = some (ip, rest) := by
          split at h
          · exact h
          · cases h
        have hcolons := count_colon_of_inRow? suffix_of_ipv4? hipv4
        have hfirst := first.toNat_le
        simp only [IPv4.groups, List.length_cons, List.length_nil, Bool.toNat_true]
        omega
      · split
        · next g rest h =>
          have hcolons := count_colon_of_inRow? suffix_of_group? h
          have hfirst := first.toNat_le
          have hrest := length_row_le room false rest
          rw [Bool.toNat_false] at hrest
          simp only [List.length_cons]
          omega
        · simp

end StubHttp.Net
