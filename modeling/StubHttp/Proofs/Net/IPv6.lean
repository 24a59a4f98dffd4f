import StubHttp.Proofs.Net.Groups

/-!
# IPv6 text

An IPv6 address has one of three forms (`Written`). One that stands for an IPv4
address ends in the text of that address, one with a run of at least two zero
groups leaves the first longest of them out, and any other is written group by
group. Exactly one of these texts is there for each address, and it is the one
that is printed (`IPv6.written_iff`). Each of the forms is read back
(`ipv6?_of_written`): what the double colon stands for is known from the number
of groups on its two sides.

No IPv6 address is written with less than two colons
(`two_le_count_of_ipv6?`), so none has the form of an IPv4 address.
-/

namespace StubHttp.Net

open Text

/-! ## Runs of zeros -/

def ZerosAt (gs : List UInt16) (start n : Nat) : Prop :=
  List.replicate n 0 <+: gs.drop start

/-- The first longest run of zero groups. -/
structure FirstLongestZeros (gs : List UInt16) (start n : Nat) : Prop where
  zeros : ZerosAt gs start n
  longest : ∀ {k m}, ZerosAt gs k m → m ≤ n
  first : ∀ {k}, ZerosAt gs k n → start ≤ k

theorem zeroRun_cons (g : UInt16) (gs : List UInt16) :
    zeroRun (g :: gs) = if g = 0 then zeroRun gs + 1 else 0 := by
  rw [zeroRun, List.takeWhile_cons]
  by_cases hg : g = 0 <;> simp [hg, zeroRun]

theorem ZerosAt.split {gs : List UInt16} {start n : Nat} (h : ZerosAt gs start n) :
    gs = gs.take start ++ List.replicate n 0 ++ gs.drop (start + n) := by
  obtain ⟨after, hafter⟩ := h
  have hdrop : gs.drop (start + n) = after := by
    rw [← List.drop_drop, ← hafter, List.drop_left' (List.length_replicate ..)]
  rw [List.append_assoc, hdrop, hafter, List.take_append_drop]

theorem zerosAt_zero_iff : ∀ {gs : List UInt16} {n : Nat}, ZerosAt gs 0 n ↔ n ≤ zeroRun gs
  | gs, 0 => by simp [ZerosAt]
  | [], n + 1 => by simp [ZerosAt, zeroRun, List.replicate_succ]
  | g :: gs, n + 1 => by
      have hrest : List.replicate n 0 <+: gs ↔ n ≤ zeroRun gs := zerosAt_zero_iff
      rw [ZerosAt, List.drop_zero, List.replicate_succ, List.cons_prefix_cons, hrest, zeroRun_cons]
      split
      · next hg => simp [hg]
      · next hg => simp [Ne.symm hg]

theorem firstLongestZeros : ∀ gs : List UInt16,
    FirstLongestZeros gs (longestZeros gs).1 (longestZeros gs).2
  | [] =>
      { zeros := List.nil_prefix
        longest := fun {k m} h => by
          rw [ZerosAt, List.drop_nil, List.prefix_nil, List.replicate_eq_nil_iff] at h
          exact Nat.le_of_eq h
        first := fun _ => Nat.zero_le _ }
  | g :: gs => by
      have ih := firstLongestZeros gs
      rw [longestZeros]
      dsimp only
      split
      · next hle =>
        refine ⟨zerosAt_zero_iff.mpr (Nat.le_refl _), fun {k m} h => ?_, fun _ => Nat.zero_le _⟩
        cases k with
        | zero => exact zerosAt_zero_iff.mp h
        | succ k => exact Nat.le_trans (ih.longest h) hle
      · next hlt =>
        refine ⟨ih.zeros, fun {k m} h => ?_, fun {k} h => ?_⟩
        · cases k with
          | zero => exact Nat.le_trans (zerosAt_zero_iff.mp h) (Nat.le_of_not_le hlt)
          | succ k => exact ih.longest h
        · cases k with
          | zero => exact absurd (zerosAt_zero_iff.mp h) hlt
          | succ k => exact Nat.succ_le_succ (ih.first h)

theorem FirstLongestZeros.unique {gs : List UInt16} {start start' n n' : Nat}
    (h : FirstLongestZeros gs start n) (h' : FirstLongestZeros gs start' n') :
    start = start' ∧ n = n' := by
  obtain rfl : n = n' := Nat.le_antisymm (h'.longest h.zeros) (h.longest h'.zeros)
  exact ⟨Nat.le_antisymm (h.first h'.zeros) (h'.first h.zeros), rfl⟩

/-! ## IPv4 inside IPv6 -/

theorem toNat_bytes (a b : UInt8) :
    (a.toUInt16 * 256 + b.toUInt16).toNat = a.toNat * 256 + b.toNat := by
  have h256 : (256 : UInt16).toNat = 256 := rfl
  have ha := a.toNat_lt
  have hb := b.toNat_lt
  rw [UInt16.toNat_add, UInt16.toNat_mul, UInt8.toNat_toUInt16, UInt8.toNat_toUInt16, h256]
  omega

theorem toNat_highByte (g : UInt16) : (g / 256).toUInt8.toNat = g.toNat / 256 := by
  have h256 : (256 : UInt16).toNat = 256 := rfl
  have hg := g.toNat_lt
  rw [UInt16.toNat_toUInt8, UInt16.toNat_div, h256]
  omega

theorem bytes_of_group (g : UInt16) :
    (g / 256).toUInt8.toUInt16 * 256 + g.toUInt8.toUInt16 = g := by
  rw [← UInt16.toNat_inj, toNat_bytes, toNat_highByte, UInt16.toNat_toUInt8]
  omega

theorem highByte_bytes (a b : UInt8) : ((a.toUInt16 * 256 + b.toUInt16) / 256).toUInt8 = a := by
  have hb := b.toNat_lt
  rw [← UInt8.toNat_inj, toNat_highByte, toNat_bytes]
  omega

theorem lowByte_bytes (a b : UInt8) : (a.toUInt16 * 256 + b.toUInt16).toUInt8 = b := by
  have hb := b.toNat_lt
  rw [← UInt8.toNat_inj, UInt16.toNat_toUInt8, toNat_bytes]
  omega

theorem IPv4.groups_ofGroups (high low : UInt16) :
    (IPv4.ofGroups high low).groups = [high, low] := by
  rw [IPv4.groups, IPv4.ofGroups, bytes_of_group, bytes_of_group]

theorem IPv4.ofGroups_groups (a b c d : UInt8) :
    IPv4.ofGroups (a.toUInt16 * 256 + b.toUInt16) (c.toUInt16 * 256 + d.toUInt16)
      = ⟨a, b, c, d⟩ := by
  rw [IPv4.ofGroups, highByte_bytes, highByte_bytes, lowByte_bytes, lowByte_bytes]

/-- The groups of an IPv6 address that stands for an IPv4 address. -/
def IPv4.mappedGroups (ip : IPv4) : List UInt16 :=
  [0, 0, 0, 0, 0, 0xffff] ++ ip.groups

theorem IPv6.mapped?_eq_some_iff {ip : IPv6} {v4 : IPv4} :
    ip.mapped? = some v4 ↔ ip.groups = v4.mappedGroups := by
  rw [IPv6.mapped?]
  constructor
  · intro h
    split at h
    · next high low hgroups =>
      obtain rfl := Option.some.inj h
      rw [hgroups, IPv4.mappedGroups, IPv4.groups_ofGroups]
      rfl
    · cases h
  · intro h
    rw [h]
    exact congrArg some (IPv4.ofGroups_groups _ _ _ _)

theorem IPv4.mappedGroups_inj {v4 v4' : IPv4} (h : v4.mappedGroups = v4'.mappedGroups) :
    v4 = v4' := by
  have hleft : (⟨v4.mappedGroups, rfl⟩ : IPv6).mapped? = some v4 :=
    IPv6.mapped?_eq_some_iff.mpr rfl
  have hright : (⟨v4.mappedGroups, rfl⟩ : IPv6).mapped? = some v4' :=
    IPv6.mapped?_eq_some_iff.mpr h
  exact Option.some.inj (hleft.symm.trans hright)

/-! ## Printed texts -/

/-- How an IPv6 address with these groups is written. -/
inductive Written (gs : List UInt16) : List Char → Prop where
  | mapped {v4 : IPv4} (hgs : gs = v4.mappedGroups) : Written gs ("::ffff:".toList ++ v4.text)
  | shortened {start n : Nat} (hgs : ∀ v4 : IPv4, gs ≠ v4.mappedGroups)
      (hzeros : FirstLongestZeros gs start n) (hn : 2 ≤ n) :
      Written gs (groupsText (gs.take start) ++ ':' :: ':' :: groupsText (gs.drop (start + n)))
  | whole (hgs : ∀ v4 : IPv4, gs ≠ v4.mappedGroups) (hzeros : ∀ {k n}, ZerosAt gs k n → n < 2) :
      Written gs (groupsText gs)

theorem IPv6.written_text (ip : IPv6) : Written ip.groups ip.text := by
  rw [IPv6.text]
  split
  · next v4 hmapped => exact .mapped (IPv6.mapped?_eq_some_iff.mp hmapped)
  · next hmapped =>
    have hgs : ∀ v4 : IPv4, ip.groups ≠ v4.mappedGroups := fun v4 h => by
      rw [IPv6.mapped?_eq_some_iff.mpr h] at hmapped
      cases hmapped
    have hzeros := firstLongestZeros ip.groups
    dsimp only
    split
    · next hn => exact .shortened hgs hzeros hn
    · next hn => exact .whole hgs fun h => Nat.lt_of_le_of_lt (hzeros.longest h) (Nat.not_le.mp hn)

/-- The forms exclude each other, and what they leave open is settled by the groups. -/
theorem Written.unique {gs : List UInt16} {cs cs' : List Char} (h : Written gs cs)
    (h' : Written gs cs') : cs = cs' := by
  cases h with
  | mapped hgs =>
      cases h' with
      | mapped hgs' => rw [IPv4.mappedGroups_inj (hgs.symm.trans hgs')]
      | shortened hgs' => exact absurd hgs (hgs' _)
      | whole hgs' => exact absurd hgs (hgs' _)
  | shortened hgs hzeros hn =>
      cases h' with
      | mapped hgs' => exact absurd hgs' (hgs _)
      | shortened _ hzeros' =>
          obtain ⟨rfl, rfl⟩ := hzeros.unique hzeros'
          rfl
      | whole _ hshort => exact absurd (hshort hzeros.zeros) (Nat.not_lt.mpr hn)
  | whole hgs hshort =>
      cases h' with
      | mapped hgs' => exact absurd hgs' (hgs _)
      | shortened _ hzeros hn => exact absurd (hshort hzeros.zeros) (Nat.not_lt.mpr hn)
      | whole => rfl

theorem IPv6.written_iff {ip : IPv6} {cs : List Char} : Written ip.groups cs ↔ cs = ip.text := by
  constructor
  · exact fun h => h.unique ip.written_text
  · rintro rfl
    exact ip.written_text

/-- Of two longest runs the first one is left out. -/
example : IPv6.text ⟨[1, 0, 0, 2, 3, 0, 0, 4], rfl⟩ = "1::2:3:0:0:4".toList := by decide

/-! ## Printed texts read back -/

theorem IPv6.ofList?_groups (ip : IPv6) : IPv6.ofList? ip.groups = some ip :=
  dif_pos ip.size_eq

theorem ipv6?_of_row {cs rest : List Char} {head : Row} (hrow : row 8 true cs = (head, rest))
    (hsize : head.groups.length = 8) :
    ipv6? cs = (IPv6.ofList? head.groups).map (·, rest) := by
  rw [ipv6?, hrow]
  exact if_pos hsize

theorem ipv6?_of_rows {cs rest left : List Char} {head tail : Row}
    (hhead : row 8 true cs = (head, ':' :: ':' :: rest)) (hsize : head.groups.length ≠ 8)
    (hipv4 : head.endsInIPv4 = false)
    (htail : row (7 - head.groups.length) true rest = (tail, left)) :
    ipv6? cs = (IPv6.ofList? (head.groups
      ++ List.replicate (8 - head.groups.length - tail.groups.length) 0 ++ tail.groups)).map
        (·, left) := by
  rw [ipv6?, hhead]
  dsimp only
  rw [if_neg hsize, hipv4, if_neg (by decide)]
  simp only [htail]

theorem ipv6?_groupsText (ip : IPv6) : ipv6? (groupsText ip.groups) = some (ip, []) := by
  have hrow : row 8 true (groupsText ip.groups ++ []) = (⟨ip.groups, false⟩, []) :=
    row_groupsText (Nat.le_of_eq ip.size_eq) List.not_mem_nil (.inl rfl)
  rw [List.append_nil] at hrow
  rw [ipv6?_of_row hrow ip.size_eq, IPv6.ofList?_groups, Option.map_some]

theorem ipv6?_shortened {ip : IPv6} {before after : List UInt16} {n : Nat} (hn : 0 < n)
    (hgs : ip.groups = before ++ List.replicate n 0 ++ after) :
    ipv6? (groupsText before ++ ':' :: ':' :: groupsText after) = some (ip, []) := by
  have hsize : before.length + n + after.length = 8 := by
    rw [← ip.size_eq, hgs, List.length_append, List.length_append, List.length_replicate]
  have hdot : '.' ∉ ':' :: ':' :: groupsText after := by
    simp only [List.mem_cons, not_or]
    exact ⟨by decide, by decide, noDot_groupsText after⟩
  have hhead : row 8 true (groupsText before ++ ':' :: ':' :: groupsText after)
      = (⟨before, false⟩, ':' :: ':' :: groupsText after) :=
    row_groupsText (by omega) hdot (.inr ⟨_, rfl⟩)
  have htail : row (7 - before.length) true (groupsText after ++ []) = (⟨after, false⟩, []) :=
    row_groupsText (by omega) List.not_mem_nil (.inl rfl)
  rw [List.append_nil] at htail
  have hzeros : 8 - before.length - after.length = n := by omega
  rw [ipv6?_of_rows hhead (by simp only [ne_eq]; omega) rfl htail]
  simp only [hzeros, ← hgs, IPv6.ofList?_groups, Option.map_some]

theorem ipv6?_mapped {ip : IPv6} {v4 : IPv4} (hgs : ip.groups = v4.mappedGroups) :
    ipv6? ("::ffff:".toList ++ v4.text) = some (ip, []) := by
  have hhead : row 8 true ("::ffff:".toList ++ v4.text)
      = (⟨[], false⟩, ':' :: ':' :: ("ffff:".toList ++ v4.text)) := by
    have hcolons : EndsRow ("::ffff:".toList ++ v4.text) := .inr ⟨_, rfl⟩
    exact row_of_none (ipv4?_of_stops (stops_cons rfl _)) (hcolons.inRow?_group? true)
  have htail : row 7 true ("ffff:".toList ++ v4.text) = (⟨0xffff :: v4.groups, true⟩, []) := by
    have hletter : inRow? true ipv4? ("ffff:".toList ++ v4.text) = none :=
      ipv4?_of_stops (stops_cons rfl _)
    have hgroup : inRow? true group? ("ffff:".toList ++ v4.text) = some (0xffff, ':' :: v4.text) :=
      group?_groupText 0xffff (stops_colon v4.text)
    have hipv4 : inRow? false ipv4? (':' :: v4.text) = some (v4, []) := ipv4?_text v4
    rw [row_of_group hletter hgroup, row_of_ipv4 (by decide) hipv4]
  rw [ipv6?_of_rows hhead (by decide) rfl htail]
  change (IPv6.ofList? v4.mappedGroups).map (·, []) = some (ip, [])
  rw [← hgs, IPv6.ofList?_groups, Option.map_some]

theorem ipv6?_of_written {ip : IPv6} {cs : List Char} (h : Written ip.groups cs) :
    ipv6? cs = some (ip, []) := by
  cases h with
  | mapped hgs => exact ipv6?_mapped hgs
  | shortened _ hzeros hn =>
      exact ipv6?_shortened (Nat.lt_of_lt_of_le Nat.zero_lt_two hn) hzeros.zeros.split
  | whole => exact ipv6?_groupsText ip

theorem ipv4?_of_written {gs : List UInt16} {cs : List Char} (h : Written gs cs) :
    ipv4? cs = none := by
  cases h with
  | mapped => exact ipv4?_of_stops (stops_cons rfl _)
  | shortened =>
      refine ipv4?_of_noDot ?_
      simp only [List.mem_append, List.mem_cons, not_or]
      exact ⟨noDot_groupsText _, by decide, by decide, noDot_groupsText _⟩
  | whole => exact ipv4?_of_noDot (noDot_groupsText gs)

/-- The characters of an IPv6 address, letters in lower case. -/
theorem Written.mem {gs : List UInt16} {cs : List Char} {c : Char} (h : Written gs cs)
    (hc : c ∈ cs) : c ∈ "0123456789abcdef:.".toList := by
  have hgroups : "0123456789abcdef:".toList ⊆ "0123456789abcdef:.".toList := by decide
  cases h with
  | mapped =>
      have hmark : "::ffff:".toList ⊆ "0123456789abcdef:.".toList := by decide
      have hipv4 : "0123456789.".toList ⊆ "0123456789abcdef:.".toList := by decide
      rcases List.mem_append.mp hc with hc | hc
      · exact hmark hc
      · exact hipv4 (IPv4.mem_text hc)
  | shortened =>
      simp only [List.mem_append, List.mem_cons] at hc
      rcases hc with hc | rfl | rfl | hc
      · exact hgroups (mem_groupsText hc)
      · decide
      · decide
      · exact hgroups (mem_groupsText hc)
  | whole => exact hgroups (mem_groupsText hc)

/-! ## Colons -/

theorem two_le_count_of_ipv6? {cs rest : List Char} {ip : IPv6} (h : ipv6? cs = some (ip, rest)) :
    2 ≤ cs.count ':' := by
  have hcolons := length_row_le 8 true cs
  rw [ipv6?] at h
  dsimp only at h
  split at h
  · next hsize =>
    have hipv4 := (row 8 true cs).1.endsInIPv4.toNat_le
    rw [hsize, Bool.toNat_true] at hcolons
    omega
  · split at h
    · cases h
    · split at h
      · next more hrest =>
        rw [hrest, List.count_cons_self, List.count_cons_self] at hcolons
        omega
      · cases h

end StubHttp.Net
