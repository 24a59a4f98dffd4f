import Mathlib.Algebra.Group.Int.Defs
import Mathlib.Algebra.Group.Nat.Defs
import StubHttp.Proofs.CommandLine.Words
import StubHttp.Proofs.Text.Digits

/-!
# Which texts are port numbers

A port number is an integer in decimal digits, a sign in front or none
(`Numeral`), from 0 to 65535. It is read through an integer of 64 bits, and the
reader gives up where a digit more would not fit; but what fits is exact
(`integer_eq_ok_iff`), however many zeros there are in front, and what does not
fit is no port. So the bounds of that integer show only in the error
(`portNumber_eq_ok_iff`, `parse_portOption`).
-/

namespace StubHttp.CommandLine

/-! ## Integers as they are written -/

/-- Digits, at least one of them, and the number that they stand for. -/
structure Decimal (ds : List Char) (n : Nat) : Prop where
  ne_nil : ds ≠ []
  isDigit : ∀ c ∈ ds, c.isDigit = true
  value : Nat.ofDigitChars 10 ds 0 = n

/-- An integer in digits, with a sign in front of them or none. -/
inductive Numeral : List Char → Int → Prop
  | unsigned {ds : List Char} {n : Nat} : Decimal ds n → Numeral ds n
  | plus {ds : List Char} {n : Nat} : Decimal ds n → Numeral ('+' :: ds) n
  | minus {ds : List Char} {n : Nat} : Decimal ds n → Numeral ('-' :: ds) (-n)

theorem Decimal.head {c : Char} {ds : List Char} {n : Nat} (h : Decimal (c :: ds) n) :
    c.isDigit = true :=
  h.isDigit c List.mem_cons_self

/-- A text is a numeral for one integer at most. -/
theorem Numeral.unique {cs : List Char} {i j : Int} (hi : Numeral cs i) (hj : Numeral cs j) :
    i = j := by
  cases hi with
  | unsigned hm =>
      cases hj with
      | unsigned hn => rw [← hm.value, ← hn.value]
      | plus hn => cases hm.head
      | minus hn => cases hm.head
  | plus hm =>
      cases hj with
      | unsigned hn => cases hn.head
      | plus hn => rw [← hm.value, ← hn.value]
  | minus hm =>
      cases hj with
      | unsigned hn => cases hn.head
      | minus hn => rw [← hm.value, ← hn.value]

theorem decimal_toDigits (n : Nat) : Decimal (Nat.toDigits 10 n) n where
  ne_nil := Nat.toDigits_ne_nil
  isDigit _ := Nat.isDigit_of_mem_toDigits (by decide) (by decide)
  value := Nat.ofDigitChars_ten_toDigits

/-! ## Reading them -/

/-- The digits are read to their value, unless it gets too large on the way; it never gets smaller
again. -/
theorem magnitude_eq_ok_iff {most : Nat} {excess : PortError} : ∀ {ds : List Char} {n m : Nat},
    n ≤ most → (magnitude most excess n ds = .ok m ↔
      (∀ c ∈ ds, c.isDigit = true) ∧ Nat.ofDigitChars 10 ds n = m ∧ m ≤ most)
  | [], n, m, hn => by
      rw [magnitude, Nat.ofDigitChars_nil, Except.ok.injEq]
      constructor
      · rintro rfl
        exact ⟨nofun, rfl, hn⟩
      · exact fun h => h.2.1
  | c :: ds, n, m, hn => by
      rw [magnitude, Text.ofDigitChars_cons, List.forall_mem_cons]
      split
      · next hc => simp_all
      · next hc =>
        dsimp only
        split
        · next hlarge =>
          -- Digits behind it can only add to a number that is too large already.
          have hle := Text.le_ofDigitChars ds (n * 10 + Text.digitValue c)
          constructor
          · exact nofun
          · rintro ⟨-, hvalue, hm⟩
            omega
        · next hfits =>
          rw [magnitude_eq_ok_iff (Nat.not_lt.mp hfits)]
          simp_all

theorem magnitude_eq_ok_iff_decimal {most n : Nat} {excess : PortError} {ds : List Char}
    (hne : ds ≠ []) : magnitude most excess 0 ds = .ok n ↔ Decimal ds n ∧ n ≤ most := by
  rw [magnitude_eq_ok_iff (Nat.zero_le most)]
  constructor
  · rintro ⟨hdigits, hvalue, hn⟩
    exact ⟨⟨hne, hdigits, hvalue⟩, hn⟩
  · rintro ⟨hds, hn⟩
    exact ⟨hds.isDigit, hds.value, hn⟩

theorem signed_false {ds : List Char} (hne : ds ≠ []) :
    signed false ds = (magnitude (2 ^ 63 - 1) .tooLarge 0 ds).map fun n : Nat => (n : Int) := by
  have hempty : ds.isEmpty ≠ true := mt List.isEmpty_iff.mp hne
  rw [signed, if_neg hempty, if_neg (by decide)]
  show Except.map _ (magnitude (2 ^ 63 - 1) .tooLarge 0 ds >>= _) = _
  cases magnitude (2 ^ 63 - 1) .tooLarge 0 ds <;> rfl

theorem signed_true {ds : List Char} (hne : ds ≠ []) :
    signed true ds = (magnitude (2 ^ 63) .tooSmall 0 ds).map fun n : Nat => -(n : Int) := by
  have hempty : ds.isEmpty ≠ true := mt List.isEmpty_iff.mp hne
  rw [signed, if_neg hempty, if_pos rfl]
  show Except.map _ (magnitude (2 ^ 63) .tooSmall 0 ds >>= _) = _
  cases magnitude (2 ^ 63) .tooSmall 0 ds <;> rfl

/-- The digits of an integer, by its sign. -/
theorem signed_eq_ok_iff {negative : Bool} {ds : List Char} {i : Int} :
    signed negative ds = .ok i ↔ ∃ n : Nat, (Decimal ds n ∧
      n ≤ if negative then 2 ^ 63 else 2 ^ 63 - 1) ∧ (if negative then -(n : Int) else n) = i := by
  by_cases hne : ds = []
  · subst hne
    constructor
    · exact nofun
    · rintro ⟨n, ⟨hds, -⟩, -⟩
      exact absurd rfl hds.ne_nil
  · cases negative with
    | false =>
        simp only [signed_false hne, map_eq_ok_iff, magnitude_eq_ok_iff_decimal hne,
          Bool.false_eq_true, if_false]
    | true => simp only [signed_true hne, map_eq_ok_iff, magnitude_eq_ok_iff_decimal hne, if_true]

theorem integer_of_digit {c : Char} (hc : c.isDigit = true) (cs : List Char) :
    integer (c :: cs) = signed false (c :: cs) := by
  unfold integer
  split
  · next heq => cases heq
  · next heq => obtain ⟨rfl, -⟩ := List.cons.inj heq; cases hc
  · next heq => obtain ⟨rfl, -⟩ := List.cons.inj heq; cases hc
  · rfl

/-- What is read is what is written, as long as it fits 64 bits. -/
theorem integer_eq_ok_iff {cs : List Char} {i : Int} :
    integer cs = .ok i ↔ Numeral cs i ∧ -2 ^ 63 ≤ i ∧ i ≤ 2 ^ 63 - 1 := by
  constructor
  · intro h
    unfold integer at h
    split at h
    · cases h
    · obtain ⟨n, ⟨hds, hn⟩, rfl⟩ := signed_eq_ok_iff.mp h
      simp only [Bool.false_eq_true, if_false] at hn ⊢
      exact ⟨.plus hds, by omega, by omega⟩
    · obtain ⟨n, ⟨hds, hn⟩, rfl⟩ := signed_eq_ok_iff.mp h
      simp only [if_true] at hn ⊢
      exact ⟨.minus hds, by omega, by omega⟩
    · obtain ⟨n, ⟨hds, hn⟩, rfl⟩ := signed_eq_ok_iff.mp h
      simp only [Bool.false_eq_true, if_false] at hn ⊢
      exact ⟨.unsigned hds, by omega, by omega⟩
  · rintro ⟨hcs, hlow, hhigh⟩
    cases hcs with
    | @unsigned _ n hds =>
        obtain ⟨c, ds, rfl⟩ := List.exists_cons_of_ne_nil hds.ne_nil
        have hn : n ≤ 2 ^ 63 - 1 := by omega
        rw [integer_of_digit hds.head]
        exact signed_eq_ok_iff.mpr ⟨n, ⟨hds, hn⟩, rfl⟩
    | @plus ds n hds =>
        have hn : n ≤ 2 ^ 63 - 1 := by omega
        exact signed_eq_ok_iff.mpr ⟨n, ⟨hds, hn⟩, rfl⟩
    | @minus ds n hds =>
        have hn : n ≤ 2 ^ 63 := by omega
        exact signed_eq_ok_iff.mpr ⟨n, ⟨hds, hn⟩, rfl⟩

theorem toNat_toUInt16 {i : Int} (hlow : 0 ≤ i) (hhigh : i ≤ 65535) :
    (i.toNat.toUInt16.toNat : Int) = i := by
  have hlt : i.toNat < UInt16.size := by
    rw [UInt16.size]
    omega
  rw [UInt16.toNat_ofNat_of_lt' hlt]
  omega

theorem portNumber_eq_ok_iff {s : String} {n : UInt16} :
    portNumber s = .ok n ↔ Numeral s.toList n.toNat := by
  have hlt := n.toNat_lt
  rw [portNumber, bind_eq_ok_iff]
  constructor
  · rintro ⟨i, hi, h⟩
    split at h
    · next hrange =>
      obtain rfl := pure_eq_ok_iff.mp h
      rw [toNat_toUInt16 hrange.1 hrange.2]
      exact (integer_eq_ok_iff.mp hi).1
    · cases h
  · intro h
    refine ⟨n.toNat, integer_eq_ok_iff.mpr ⟨h, by omega, by omega⟩, ?_⟩
    rw [if_pos (by omega), Int.toNat_natCast]
    exact pure_eq_ok_iff.mpr UInt16.ofNat_toNat

theorem portNumber_toString (n : UInt16) : portNumber (toString n.toNat) = .ok n := by
  rw [portNumber_eq_ok_iff, Nat.toString_eq_ofList_toDigits, String.toList_ofList]
  exact .unsigned (decimal_toDigits n.toNat)

/-! ## The option -/

theorem assign_port {p : Progress} (topic : Topic) (h : .port ∉ p.given) (value : String) :
    p.assign topic .port value = match portNumber value with
      | .ok n => .ok { p with given := p.given ++ [.port], options.port := n }
      | .error e => .error (.invalid (.badPort value e)) := by
  unfold Progress.assign
  exact if_neg h

theorem parse_portAssigned (v : String) : parse ["serve", "--port=" ++ v] =
    match portNumber v with
    | .ok n => .ok (.serve ⟨"0.0.0.0", n⟩)
    | .error e => .error (.invalid (.badPort v e)) := by
  have hname : "--" ++ Opt.port.long ++ "=" = "--port=" := by decide
  have hwritten : List.Forall₂ (fun s ws => s.1.Written s.2 ws) [(Opt.port, v)]
      [["--port=" ++ v]] := .cons (hname ▸ .nameAssigned) .nil
  have hparse := parse_of_written hwritten
  rw [List.flatten_singleton] at hparse
  rw [hparse, Progress.assignAll_cons, assign_port .serve List.not_mem_nil]
  cases portNumber v <;> rfl

/-- The option is taken just if its value is an integer from 0 to 65535, and as that integer;
of any other value it is said that it is wrong. -/
theorem parse_portOption (v : String) :
    ((∃ invocation, parse ["serve", "--port=" ++ v] = .ok invocation) ↔
      ∃ i, Numeral v.toList i ∧ 0 ≤ i ∧ i ≤ 65535) ∧
    (∀ i, Numeral v.toList i → 0 ≤ i → i ≤ 65535 → ∃ n : UInt16, (n.toNat : Int) = i ∧
      parse ["serve", "--port=" ++ v] = .ok (.serve ⟨"0.0.0.0", n⟩)) ∧
    ∀ stop, parse ["serve", "--port=" ++ v] = .error stop →
      ∃ problem, stop = .invalid (.badPort v problem) := by
  have htaken : ∀ i, Numeral v.toList i → 0 ≤ i → i ≤ 65535 → ∃ n : UInt16, (n.toNat : Int) = i ∧
      parse ["serve", "--port=" ++ v] = .ok (.serve ⟨"0.0.0.0", n⟩) := by
    intro i hi hlow hhigh
    have hvalue := toNat_toUInt16 hlow hhigh
    refine ⟨i.toNat.toUInt16, hvalue, ?_⟩
    rw [parse_portAssigned, portNumber_eq_ok_iff.mpr (by rwa [hvalue])]
  refine ⟨⟨?_, ?_⟩, htaken, ?_⟩
  · rintro ⟨invocation, h⟩
    rw [parse_portAssigned] at h
    cases hport : portNumber v with
    | error e => rw [hport] at h; cases h
    | ok n =>
        have hlt := n.toNat_lt
        exact ⟨n.toNat, portNumber_eq_ok_iff.mp hport, by omega, by omega⟩
  · rintro ⟨i, hi, hlow, hhigh⟩
    obtain ⟨n, -, h⟩ := htaken i hi hlow hhigh
    exact ⟨_, h⟩
  · intro stop h
    rw [parse_portAssigned] at h
    cases hport : portNumber v with
    | error e => rw [hport] at h; exact ⟨e, (Except.error.inj h).symm⟩
    | ok n => rw [hport] at h; cases h

/-- Zeros in front that are more than 64 bits could count, a zero with a minus sign, and a number
that is 80 only as far as 64 bits go. -/
theorem parse_portOption_zeros :
    (∃ n : UInt16, (n.toNat : Int) = 65535 ∧
      parse ["serve", "--port=" ++ "+0000000000000000000000065535"] = .ok (.serve ⟨"0.0.0.0", n⟩)) ∧
    (∃ n : UInt16, (n.toNat : Int) = 0 ∧
      parse ["serve", "--port=" ++ "-0"] = .ok (.serve ⟨"0.0.0.0", n⟩)) ∧
    ¬∃ invocation, parse ["serve", "--port=" ++ "18446744073709551696"] = .ok invocation := by
  have hplus : Numeral "+0000000000000000000000065535".toList 65535 :=
    .plus (n := 65535) ⟨nofun, List.all_eq_true.mp rfl, rfl⟩
  have hminus : Numeral "-0".toList 0 := .minus (n := 0) ⟨nofun, List.all_eq_true.mp rfl, rfl⟩
  have hlarge : Numeral "18446744073709551696".toList 18446744073709551696 :=
    .unsigned (n := 18446744073709551696) ⟨nofun, List.all_eq_true.mp rfl, rfl⟩
  refine ⟨?_, ?_, fun htaken => ?_⟩
  · exact (parse_portOption _).2.1 65535 hplus (by decide) (by decide)
  · exact (parse_portOption _).2.1 0 hminus (by decide) (by decide)
  · obtain ⟨i, hi, -, hhigh⟩ := (parse_portOption _).1.mp htaken
    rw [hi.unique hlarge] at hhigh
    exact absurd hhigh (by decide)

end StubHttp.CommandLine
