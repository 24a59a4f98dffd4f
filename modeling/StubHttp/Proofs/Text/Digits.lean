import Mathlib.Data.List.Basic
import Mathlib.Data.List.TakeWhile
import StubHttp.Text.Digits

/-!
# Numbers and their digits

A number is written in the digits that lie below the base
(`exists_digit_of_mem_toDigits`), in base ten without a zero in front
(`head?_toDigits`). In base ten this leaves one way of writing it: digits
without a zero in front are those of their value (`toDigits_ofDigitChars`). In
base sixteen the digits are read back in lower case (`hexValue?_digitChar`).

A reader that takes all the digits there are takes those of the number, if what
follows cannot go on with them (`takeWhile_append_of_stops`).
-/

namespace StubHttp.Text

/-! ## Where a run ends -/

/-- A text that does not go on with characters of this kind. -/
def Stops (belongs : Char → Bool) (cs : List Char) : Prop :=
  ∀ c ∈ cs.head?, belongs c = false

variable {belongs : Char → Bool}

theorem stops_nil : Stops belongs [] := nofun

theorem stops_cons {c : Char} (hc : belongs c = false) (cs : List Char) :
    Stops belongs (c :: cs) := by
  intro d hd
  obtain rfl := Option.some.inj hd
  exact hc

theorem takeWhile_of_stops {cs : List Char} (h : Stops belongs cs) : cs.takeWhile belongs = [] := by
  cases cs with
  | nil => exact List.takeWhile_nil
  | cons c cs => exact List.takeWhile_cons_of_neg (Bool.not_eq_true _ ▸ h c rfl)

theorem takeWhile_append_of_stops {run rest : List Char} (hrun : ∀ c ∈ run, belongs c = true)
    (hrest : Stops belongs rest) : (run ++ rest).takeWhile belongs = run := by
  rw [List.takeWhile_append_of_pos hrun, takeWhile_of_stops hrest, List.append_nil]

theorem eq_takeWhile_append_drop (belongs : Char → Bool) (cs : List Char) :
    cs = cs.takeWhile belongs ++ cs.drop (cs.takeWhile belongs).length := by
  have hprefix := List.prefix_iff_eq_take.mp (List.takeWhile_prefix belongs (l := cs))
  calc cs = cs.take (cs.takeWhile belongs).length ++ cs.drop (cs.takeWhile belongs).length :=
        (List.take_append_drop _ _).symm
    _ = cs.takeWhile belongs ++ cs.drop (cs.takeWhile belongs).length := by rw [← hprefix]

theorem stops_drop_takeWhile (belongs : Char → Bool) (cs : List Char) :
    Stops belongs (cs.drop (cs.takeWhile belongs).length) := by
  have hdrop : cs.drop (cs.takeWhile belongs).length = cs.dropWhile belongs := by
    have hsplit := eq_takeWhile_append_drop belongs cs
    exact List.append_cancel_left (hsplit.symm.trans List.takeWhile_append_dropWhile.symm)
  rw [hdrop]
  intro c hc
  have hfirst := List.head?_dropWhile_not belongs cs
  rw [Option.mem_def.mp hc] at hfirst
  exact hfirst

/-! ## Written digits -/

theorem exists_digit_of_mem_toDigits {b : Nat} (hb : 1 < b) {c : Char} : ∀ {n : Nat},
    c ∈ Nat.toDigits b n → ∃ d < b, c = Nat.digitChar d := by
  intro n
  induction n using Nat.strongRecOn with
  | ind n ih =>
      intro hc
      by_cases hlt : n < b
      · rw [Nat.toDigits_of_lt_base hlt] at hc
        exact ⟨n, hlt, List.mem_singleton.mp hc⟩
      · rw [Nat.toDigits_of_base_le hb (Nat.not_lt.mp hlt)] at hc
        rcases List.mem_append.mp hc with hc | hc
        · exact ih (n / b) (Nat.div_lt_self (by omega) hb) hc
        · exact ⟨n % b, Nat.mod_lt n (by omega), List.mem_singleton.mp hc⟩

theorem digitChar_ne_zero : ∀ n < 10, n ≠ 0 → Nat.digitChar n ≠ '0' := by
  decide

/-- A number is not written with a zero in front. -/
theorem head?_toDigits {n : Nat} (hn : n ≠ 0) : (Nat.toDigits 10 n).head? ≠ some '0' := by
  induction n using Nat.strongRecOn with
  | ind n ih =>
      by_cases hlt : n < 10
      · rw [Nat.toDigits_of_lt_base hlt, List.head?_cons]
        exact fun h => digitChar_ne_zero n hlt hn (Option.some.inj h)
      · rw [Nat.toDigits_of_base_le (by decide) (Nat.not_lt.mp hlt),
          List.head?_append_of_ne_nil _ Nat.toDigits_ne_nil]
        exact ih (n / 10) (by omega) (by omega)

/-! ## Decimal digits read -/

theorem ofDigitChars_cons (c : Char) (ds : List Char) (n : Nat) :
    Nat.ofDigitChars 10 (c :: ds) n = Nat.ofDigitChars 10 ds (n * 10 + digitValue c) := by
  rw [Nat.ofDigitChars_cons, Nat.mul_comm]
  rfl

/-- Digits never make the number in front of them smaller. -/
theorem le_ofDigitChars : ∀ (ds : List Char) (n : Nat), n ≤ Nat.ofDigitChars 10 ds n
  | [], n => Nat.le_refl n
  | c :: ds, n => by
      rw [ofDigitChars_cons]
      have hrest := le_ofDigitChars ds (n * 10 + digitValue c)
      omega

theorem digit_bounds {c : Char} (hc : c.isDigit = true) : 48 ≤ c.toNat ∧ c.toNat ≤ 57 := by
  simpa [Char.isDigit, UInt32.le_iff_toNat_le] using hc

/-- A decimal digit and its value. -/
theorem digitChar_sub {c : Char} (hc : c.isDigit = true) :
    c.toNat - '0'.toNat < 10 ∧ Nat.digitChar (c.toNat - '0'.toNat) = c := by
  obtain ⟨hlow, hhigh⟩ := digit_bounds hc
  have hzero : '0'.toNat = 48 := rfl
  have hlt : c.toNat - '0'.toNat < 10 := by omega
  refine ⟨hlt, ?_⟩
  rw [← Char.toNat_inj, Nat.toNat_digitChar_of_lt_ten hlt]
  omega

/-- Digits go on with the number in front of them. -/
theorem toDigits_ofDigitChars_of_pos : ∀ {ds : List Char} {n : Nat},
    (∀ c ∈ ds, c.isDigit = true) → 0 < n →
      Nat.toDigits 10 (Nat.ofDigitChars 10 ds n) = Nat.toDigits 10 n ++ ds
  | [], n, _, _ => by rw [Nat.ofDigitChars_nil, List.append_nil]
  | c :: ds, n, hds, hn => by
      obtain ⟨hc, hds⟩ := List.forall_mem_cons.mp hds
      obtain ⟨hlt, hchar⟩ := digitChar_sub hc
      rw [Nat.ofDigitChars_cons, toDigits_ofDigitChars_of_pos hds (by omega),
        ← Nat.toDigits_append_toDigits (by decide) hn hlt, Nat.toDigits_of_lt_base hlt, hchar,
        List.append_assoc, List.singleton_append]

/-- Digits without a zero in front are the digits of their value. -/
theorem toDigits_ofDigitChars {ds : List Char} (hne : ds ≠ []) (hds : ∀ c ∈ ds, c.isDigit = true)
    (hzero : ds.head? = some '0' → ds.length ≤ 1) :
    Nat.toDigits 10 (Nat.ofDigitChars 10 ds 0) = ds := by
  obtain ⟨c, ds, rfl⟩ := List.exists_cons_of_ne_nil hne
  obtain ⟨hc, hds⟩ := List.forall_mem_cons.mp hds
  rw [Nat.ofDigitChars_cons, Nat.mul_zero, Nat.zero_add]
  by_cases h : c = '0'
  · subst h
    obtain rfl : ds = [] := List.length_eq_zero_iff.mp (Nat.le_zero.mp (by simpa using hzero rfl))
    rfl
  · obtain ⟨hlt, hchar⟩ := digitChar_sub hc
    have hpos : 0 < c.toNat - '0'.toNat := by
      refine Nat.pos_of_ne_zero fun hnone => h ?_
      rw [← hchar, hnone]
      rfl
    rw [toDigits_ofDigitChars_of_pos hds hpos, Nat.toDigits_of_lt_base hlt, hchar,
      List.singleton_append]

/-! ## Hexadecimal digits read -/

theorem hexValue?_digitChar : ∀ d < 16, hexValue? (Nat.digitChar d) = some d := by
  decide

theorem hexDigit_bounds {c : Char} {n : Nat} (h : hexValue? c = some n) :
    48 ≤ c.toNat ∧ c.toNat ≤ 57 ∨ 65 ≤ c.toNat ∧ c.toNat ≤ 70 ∨ 97 ≤ c.toNat ∧ c.toNat ≤ 102 := by
  have hcode : ∀ a b : Char, a ≤ b ↔ a.toNat ≤ b.toNat := fun _ _ => UInt32.le_iff_toNat_le
  unfold hexValue? at h
  split_ifs at h with hdigit hlower hupper
  · exact .inl ⟨(hcode _ _).mp hdigit.1, (hcode _ _).mp hdigit.2⟩
  · exact .inr (.inr ⟨(hcode _ _).mp hlower.1, (hcode _ _).mp hlower.2⟩)
  · exact .inr (.inl ⟨(hcode _ _).mp hupper.1, (hcode _ _).mp hupper.2⟩)

end StubHttp.Text
