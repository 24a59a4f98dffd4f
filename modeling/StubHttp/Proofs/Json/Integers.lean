import Mathlib.Algebra.Group.Int.Defs
import StubHttp.Json.Printer
import StubHttp.Proofs.Json.Numbers

/-!
# Integers

An integer from `-2 ^ 63` to `2 ^ 64 - 1` is read back from its text, if what
follows cannot go on with it (`number_integerText`). The other way round, an
integer that has been read lies between these bounds, whatever it was read
from: a number with a fraction or an exponent, or one that is too large, is
read as a double (`kept_of_number`).
-/

namespace StubHttp.Json

/-- The integers that are kept as such. -/
def InRange (i : Int) : Prop :=
  -2 ^ 63 ≤ i ∧ i ≤ 2 ^ 64 - 1

/-! ## Digits -/

/-- Digits that fit are all used. -/
theorem collect_eq : ∀ {ds : List Char} {n : Nat}, Nat.ofDigitChars 10 ds n < UInt64.size →
    collect n ds = (Nat.ofDigitChars 10 ds n, [])
  | [], n, _ => rfl
  | c :: ds, n, h => by
      rw [Text.ofDigitChars_cons] at h ⊢
      have hfits := (Text.le_ofDigitChars ds _).trans_lt h
      rw [collect]
      rw [if_pos hfits, collect_eq h]

theorem collect_lt : ∀ {ds : List Char} {n : Nat}, n < UInt64.size →
    (collect n ds).1 < UInt64.size
  | [], n, h => h
  | c :: ds, n, h => by
      rw [collect]
      split
      · next hnext => exact collect_lt hnext
      · exact h

theorem digits_toDigits (n : Nat) : Digits (Nat.toDigits 10 n) :=
  ⟨Nat.toDigits_ne_nil, fun _ => Nat.isDigit_of_mem_toDigits (by decide) (by decide)⟩

theorem integerPart_toDigits (n : Nat) : IntegerPart (Nat.toDigits 10 n) := by
  by_cases hn : n = 0
  · exact .inl (by rw [hn, Nat.toDigits_zero])
  · exact .inr ⟨digits_toDigits n, Text.head?_toDigits hn⟩

/-! ## Reading what has been written -/

/-- The integer part of a number is read as far as its digits go. -/
theorem number_append {negative : Bool} {t rest : List Char} (ht : IntegerPart t)
    (hrest : EndsDigits rest) : number negative (t ++ rest) = afterInteger negative t rest := by
  -- Step by step, and never by evaluation: behind the integer part a double may be computed.
  unfold number
  rcases ht with rfl | ⟨⟨hne, hdigits⟩, hzero⟩
  · split
    · next heq => cases heq
    · next left heq =>
      obtain rfl : rest = left := (List.cons.inj heq).2
      split
      · next c left =>
        have hc : ¬ c.isDigit = true := by rw [hrest c rfl]; decide
        rw [if_neg hc]
      · rfl
    · next hzero heq => exact absurd (List.cons.inj heq).1.symm hzero
  · obtain ⟨c, ds, rfl⟩ := List.exists_cons_of_ne_nil hne
    have hc : c.isDigit = true := hdigits c List.mem_cons_self
    have hsplit : digits (c :: ds ++ rest) = (c :: ds, rest) := digits_append hdigits hrest
    rw [List.cons_append] at hsplit ⊢
    split
    · next heq => cases heq
    · next heq => exact absurd (congrArg some (List.cons.inj heq).1) hzero
    · next d left _ heq =>
      cases heq
      rw [if_pos hc, hsplit]

/-- Digits alone are a whole number, if there are not too many of them. -/
theorem afterInteger_of_collect {negative : Bool} {ds : List Char} {n : Nat} {rest : List Char}
    (hds : collect 0 ds = (n, [])) (hrest : EndsNumber rest) :
    afterInteger negative ds rest = wholeNumber negative n rest := by
  have hexponent : ¬ atExponent rest = true := by
    cases rest with
    | nil => exact nofun
    | cons c rest =>
        obtain ⟨-, -, he, hE⟩ := hrest c rfl
        simp [atExponent, he, hE]
  unfold afterInteger
  rw [hds]
  dsimp only
  split
  · exact absurd rfl (hrest '.' rfl).2.1
  · rw [if_neg hexponent, if_pos List.isEmpty_nil]

theorem number_toDigits {negative : Bool} {n : Nat} {rest : List Char} (hn : n < UInt64.size)
    (hrest : EndsNumber rest) :
    number negative (Nat.toDigits 10 n ++ rest) = wholeNumber negative n rest := by
  have hvalue : Nat.ofDigitChars 10 (Nat.toDigits 10 n) 0 = n := Nat.ofDigitChars_ten_toDigits
  have hcollect : collect 0 (Nat.toDigits 10 n) = (n, []) := by
    rw [collect_eq (hvalue.symm ▸ hn), hvalue]
  rw [number_append (integerPart_toDigits n) hrest.endsDigits,
    afterInteger_of_collect hcollect hrest]

/-- A written integer has a minus sign in front of its digits, or none. -/
theorem number_integerText {i : Int} (hi : InRange i) {rest : List Char} (hrest : EndsNumber rest) :
    (∃ ds, integerText i = '-' :: ds ∧ number true (ds ++ rest) = .ok (.integer i, rest)) ∨
      ∃ c ds, integerText i = c :: ds ∧ c.isDigit = true ∧
        number false (c :: ds ++ rest) = .ok (.integer i, rest) := by
  obtain ⟨hlow, hhigh⟩ := hi
  cases i with
  | ofNat n =>
      have hn : n < UInt64.size := by
        rw [UInt64.size]
        have hhigh : (n : Int) ≤ 2 ^ 64 - 1 := hhigh
        omega
      obtain ⟨c, ds, htext⟩ := List.exists_cons_of_ne_nil (Nat.toDigits_ne_nil (n := n) (b := 10))
      refine .inr ⟨c, ds, htext, ?_, ?_⟩
      · exact Nat.isDigit_of_mem_toDigits (by decide) (by decide) (htext ▸ List.mem_cons_self)
      · rw [← htext, number_toDigits hn hrest]
        rfl
  | negSucc n =>
      have hn : n + 1 ≤ Nat.pow 2 63 := by
        show n + 1 ≤ 2 ^ 63
        omega
      have hfits : n + 1 < UInt64.size := hn.trans_lt (by decide)
      refine .inl ⟨_, rfl, ?_⟩
      rw [number_toDigits hfits hrest, wholeNumber, if_neg (by decide), if_pos ⟨n.succ_pos, hn⟩]
      rfl

/-! ## What can be read -/

/-- A number as it is kept: an integer between the bounds, or a double. -/
inductive Number.Kept : Number → Prop
  | integer {i : Int} : InRange i → Number.Kept (.integer i)
  | double (x : Binary64) : Number.Kept (.double x)

theorem kept_of_scaled {negative : Bool} {n : Nat} {e : Int} {cs rest : List Char} {x : Number}
    (h : scaled negative n e cs = .ok (x, rest)) : x.Kept := by
  rw [scaled] at h
  generalize (Binary64.ofNat? negative n).bind (·.scaleTen? e) = x? at h
  cases x? with
  | none => cases h
  | some x =>
      obtain ⟨rfl, -⟩ := Prod.mk.inj (Except.ok.inj h)
      exact .double _

theorem kept_of_exponent {negative : Bool} {n : Nat} {e : Int} {cs rest : List Char} {x : Number}
    (h : exponent negative n e cs = .ok (x, rest)) : x.Kept := by
  unfold exponent at h
  dsimp only at h
  split at h
  · cases h
  · split at h
    · cases h
    · split at h
      · exact kept_of_scaled h
      · split at h
        · cases h
        · obtain ⟨rfl, -⟩ := Prod.mk.inj (Except.ok.inj h)
          exact .double _

theorem kept_of_fraction {negative : Bool} {n : Nat} {e : Int} {cs rest : List Char} {x : Number}
    (h : fraction negative n e cs = .ok (x, rest)) : x.Kept := by
  rw [fraction] at h
  dsimp only at h
  split at h
  · split at h <;> cases h
  · rw [afterFraction] at h
    split at h
    · exact kept_of_exponent h
    · exact kept_of_scaled h

theorem kept_of_wholeNumber {negative : Bool} {n : Nat} {cs rest : List Char} {x : Number}
    (hn : n < UInt64.size) (h : wholeNumber negative n cs = .ok (x, rest)) : x.Kept := by
  rw [wholeNumber] at h
  split at h
  · obtain ⟨rfl, -⟩ := Prod.mk.inj (Except.ok.inj h)
    refine .integer ⟨?_, ?_⟩ <;> simp only [UInt64.size] at hn <;> omega
  · split at h
    · next hbounds =>
      obtain ⟨rfl, -⟩ := Prod.mk.inj (Except.ok.inj h)
      have hle : n ≤ 2 ^ 63 := hbounds.2
      refine .integer ⟨?_, ?_⟩ <;> omega
    · exact kept_of_scaled h

theorem kept_of_afterInteger {negative : Bool} {ds cs rest : List Char} {x : Number}
    (h : afterInteger negative ds cs = .ok (x, rest)) : x.Kept := by
  unfold afterInteger at h
  dsimp only at h
  split at h
  · exact kept_of_fraction h
  · split_ifs at h
    · exact kept_of_exponent h
    · exact kept_of_wholeNumber (collect_lt (by decide)) h
    · exact kept_of_scaled h

theorem kept_of_number {negative : Bool} {cs rest : List Char} {x : Number}
    (h : number negative cs = .ok (x, rest)) : x.Kept := by
  unfold number at h
  split at h
  · cases h
  · split at h
    · split_ifs at h
      exact kept_of_afterInteger h
    · exact kept_of_afterInteger h
  · split_ifs at h
    exact kept_of_afterInteger h

end StubHttp.Json
