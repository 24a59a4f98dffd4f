import StubHttp.Net.AddressReader
import StubHttp.Proofs.Text.Digits

/-!
# IPv4 text

Every reader of an IPv4 address is told by an equivalence: it finds something
in front of a text just if the text begins with what that thing is written as,
and goes on with no further digit (`octet?_eq_some_iff`, `ipv4?_eq_some_iff`).
So an IPv4 address has one text. Zeros in front, too few numbers, numbers above
255 and anything around them have no place in it.
-/

namespace StubHttp.Net

open Text

/-! ## Numbers -/

theorem isDigit_of_mem_octetText {n : UInt8} {c : Char} (hc : c ∈ octetText n) :
    c.isDigit = true :=
  Nat.isDigit_of_mem_toDigits (by decide) (by decide) hc

theorem octetText_ne_nil (n : UInt8) : octetText n ≠ [] :=
  Nat.toDigits_ne_nil

/-- A number of eight bits has at most three digits. -/
theorem length_octetText (n : UInt8) : (octetText n).length ≤ 3 := by
  rw [octetText, Nat.length_toDigits_le_iff (by decide) (by decide)]
  have hn := n.toNat_lt
  omega

theorem length_le_of_head?_octetText {n : UInt8} (h : (octetText n).head? = some '0') :
    (octetText n).length ≤ 1 := by
  by_cases hn : n.toNat = 0
  · rw [octetText, hn, Nat.toDigits_zero]
    exact Nat.le_refl 1
  · exact absurd h (head?_toDigits hn)

theorem octet?_eq_some_iff {cs rest : List Char} {n : UInt8} :
    octet? cs = some (n, rest) ↔ cs = octetText n ++ rest ∧ Stops Char.isDigit rest := by
  constructor
  · intro h
    rw [octet?] at h
    split at h
    · cases h
    · next hflaw =>
      obtain ⟨rfl, rfl⟩ := Prod.mk.inj (Option.some.inj h)
      simp only [not_or, not_and, Nat.not_lt, List.isEmpty_iff] at hflaw
      obtain ⟨hne, -, hzero, hvalue⟩ := hflaw
      have hdigits := toDigits_ofDigitChars hne (fun c => List.mem_takeWhile_imp) fun hhead =>
        Nat.not_lt.mp fun hlong => hzero hlong hhead
      have hbyte : (Nat.ofDigitChars 10 (cs.takeWhile Char.isDigit) 0).toUInt8.toNat = _ :=
        UInt8.toNat_ofNat_of_lt' (Nat.lt_succ_of_le hvalue)
      refine ⟨?_, stops_drop_takeWhile Char.isDigit cs⟩
      rw [octetText, hbyte, hdigits]
      exact eq_takeWhile_append_drop Char.isDigit cs
  · rintro ⟨rfl, hrest⟩
    have hds : (octetText n ++ rest).takeWhile Char.isDigit = octetText n :=
      takeWhile_append_of_stops (fun c => isDigit_of_mem_octetText) hrest
    have hvalue : Nat.ofDigitChars 10 (octetText n) 0 = n.toNat := Nat.ofDigitChars_ten_toDigits
    have hbyte : n.toNat.toUInt8 = n := UInt8.ofNat_toNat
    have hn := n.toNat_lt
    rw [octet?, hds, hvalue, if_neg, hbyte, List.drop_left]
    simp only [not_or, not_and, Nat.not_lt, List.isEmpty_iff]
    refine ⟨octetText_ne_nil n, length_octetText n, fun hlong hhead => ?_, by omega⟩
    exact absurd (length_le_of_head?_octetText hhead) (Nat.not_le.mpr hlong)

/-! ## Addresses -/

theorem after?_eq_some_iff {α : Type} {mark : Char} {reader : List Char → Option (α × List Char)}
    {cs rest : List Char} {a : α} :
    after? mark reader cs = some (a, rest) ↔
      ∃ cs', cs = mark :: cs' ∧ reader cs' = some (a, rest) := by
  cases cs with
  | nil => simp [after?]
  | cons c cs =>
      rw [after?]
      split
      · next hc => simp [hc]
      · next hc => simp [hc]

theorem stops_dot (cs : List Char) : Stops Char.isDigit ('.' :: cs) :=
  stops_cons rfl cs

theorem ipv4?_eq_some_iff {cs rest : List Char} {ip : IPv4} :
    ipv4? cs = some (ip, rest) ↔ cs = ip.text ++ rest ∧ Stops Char.isDigit rest := by
  simp only [ipv4?, Option.bind_eq_bind, Option.bind_eq_some_iff, Prod.exists, octet?_eq_some_iff,
    after?_eq_some_iff, Option.pure_def, Option.some.injEq, Prod.mk.injEq]
  constructor
  · rintro ⟨a, cs₁, ⟨rfl, -⟩, b, cs₂, ⟨_, rfl, rfl, -⟩, c, cs₃, ⟨_, rfl, rfl, -⟩, d, cs₄,
      ⟨_, rfl, rfl, hrest⟩, rfl, rfl⟩
    exact ⟨by simp [IPv4.text], hrest⟩
  · rintro ⟨rfl, hrest⟩
    refine ⟨ip.a, _, ⟨?_, stops_dot _⟩, ip.b, _, ⟨_, rfl, rfl, stops_dot _⟩, ip.c, _,
      ⟨_, rfl, rfl, stops_dot _⟩, ip.d, rest, ⟨_, rfl, rfl, hrest⟩, rfl, rfl⟩
    simp [IPv4.text]

/-- The characters of an IPv4 address. -/
theorem IPv4.mem_text {ip : IPv4} {c : Char} (hc : c ∈ ip.text) : c ∈ "0123456789.".toList := by
  have hoctet : ∀ {n : UInt8}, c ∈ octetText n → c ∈ "0123456789.".toList := by
    intro n hn
    obtain ⟨d, hd, rfl⟩ := exists_digit_of_mem_toDigits (by decide) hn
    have hdigits : ∀ d < 10, Nat.digitChar d ∈ "0123456789.".toList := by decide
    exact hdigits d hd
  simp only [IPv4.text, List.mem_append, List.mem_cons, or_assoc] at hc
  rcases hc with hc | rfl | hc | rfl | hc | rfl | hc
  all_goals first | exact hoctet hc | decide

theorem ipv4?_text (ip : IPv4) : ipv4? ip.text = some (ip, []) :=
  ipv4?_eq_some_iff.mpr ⟨(List.append_nil _).symm, stops_nil⟩

theorem ipv4?_of_stops {cs : List Char} (h : Stops Char.isDigit cs) : ipv4? cs = none := by
  have hoctet : octet? cs = none := by rw [octet?, takeWhile_of_stops h, if_pos (.inl rfl)]
  rw [ipv4?, hoctet]
  rfl

theorem ipv4?_of_noDot {cs : List Char} (h : '.' ∉ cs) : ipv4? cs = none := by
  refine Option.eq_none_iff_forall_ne_some.mpr fun ⟨ip, rest⟩ hip => h ?_
  obtain ⟨rfl, -⟩ := ipv4?_eq_some_iff.mp hip
  simp [IPv4.text]

end StubHttp.Net
