import StubHttp.Json.Printer
import StubHttp.Proofs.Json.Integers

/-!
# Numbers as they are written

Whatever number is written, its text is one of the grammar
(`wellFormed_numberText`). For an integer these are its digits. The digits of a
double are cut by a point, filled up with zeros or followed by an exponent
(`magnitude_layOut`), and none of that may leave a zero in front of them. There
is none as long as the shortest decimal of the double is not zero itself, and
that follows from the interval it is taken from: zero does not round to a
double other than zero (`rounds_zero`, `shortest_ne_zero`).
-/

namespace StubHttp

/-! ## The shortest decimal of a double -/

namespace Binary64

variable {x : Binary64}

/-- What rounds to a double other than zero keeps away from zero. -/
theorem lowerQuarters_pos (hx : x.units ≠ 0) : 0 < x.lowerQuarters := by
  have hpower : 0 < Nat.pow 2 (x.exponent.val - 1) := Nat.pow_pos (by decide)
  have hsignificand : 0 < x.significand := Nat.pos_of_ne_zero fun hzero =>
    hx (by rw [units, hzero, Nat.zero_mul])
  have hunits : Nat.pow 2 (x.exponent.val - 1) ≤ x.units := Nat.le_mul_of_pos_left _ hsignificand
  simp only [lowerQuarters, quarters, stepQuarters]
  split <;> omega

theorem rounds_zero (hx : x.units ≠ 0) (num : Nat) {den : Nat} (hden : 0 < den) :
    x.rounds 0 num den = false := by
  have hlower : 0 < x.lowerQuarters * den := Nat.mul_pos (lowerQuarters_pos hx) hden
  simp only [rounds, Nat.zero_mul]
  split
  · simp [Nat.not_le.mpr hlower]
  · simp

/-- A point that is found on a grid rounds to the double. -/
theorem rounds_of_onGrid? {p : Int} {c : Nat} (h : x.onGrid? p = some c) :
    ∃ num den, 0 < den ∧ x.rounds c num den = true := by
  refine ⟨4 * Nat.pow 2 1074 * Nat.pow 10 p.toNat, Nat.pow 10 (-p).toNat,
    Nat.pow_pos (by decide), ?_⟩
  unfold onGrid? at h
  dsimp only at h
  split at h
  · next hbelow habove =>
    split at h
    · obtain rfl := Option.some.inj h
      exact hbelow
    · obtain rfl := Option.some.inj h
      exact habove
  · next hbelow _ =>
    obtain rfl := Option.some.inj h
    exact hbelow
  · next _ habove =>
    obtain rfl := Option.some.inj h
    exact habove
  · cases h

theorem shortestFrom_ne_zero (hx : x.units ≠ 0) : ∀ n, (x.shortestFrom n).1 ≠ 0
  | 0 => by
      have hpower : ∀ k, Nat.pow 5 k ≠ 0 := fun k => (Nat.pow_pos (by decide)).ne'
      exact Nat.mul_ne_zero hx (hpower 1074)
  | n + 1 => by
      rw [shortestFrom]
      split
      · next c hc =>
        rintro rfl
        obtain ⟨num, den, hden, hrounds⟩ := rounds_of_onGrid? hc
        rw [rounds_zero hx num hden] at hrounds
        cases hrounds
      · exact shortestFrom_ne_zero hx n

theorem shortest_ne_zero (hx : x.isZero = false) : x.shortest.1 ≠ 0 :=
  shortestFrom_ne_zero (by simpa [isZero] using hx) _

end Binary64

namespace Json

/-! ## Digits -/

theorem isDigit_of_mem_zeros {n : Nat} {c : Char} (hc : c ∈ List.replicate n '0') :
    c.isDigit = true := by
  rw [List.eq_of_mem_replicate hc]
  rfl

theorem digits_zero : Digits ['0'] :=
  ⟨nofun, List.forall_mem_singleton.mpr rfl⟩

section
variable {ds es : List Char}

theorem Digits.append (hds : Digits ds) (hes : ∀ c ∈ es, c.isDigit = true) : Digits (ds ++ es) :=
  ⟨List.append_ne_nil_of_left_ne_nil hds.1 es, List.forall_mem_append.mpr ⟨hds.2, hes⟩⟩

theorem Digits.prepend (hes : Digits es) (hds : ∀ c ∈ ds, c.isDigit = true) : Digits (ds ++ es) :=
  ⟨List.append_ne_nil_of_right_ne_nil ds hes.1, List.forall_mem_append.mpr ⟨hds, hes.2⟩⟩

/-- Where digits are cut, there are digits on either side. -/
theorem Digits.cut (hds : Digits ds) {n : Nat} (hn : 0 < n) :
    Digits (ds.take n) ∧ (n < ds.length → Digits (ds.drop n)) := by
  refine ⟨⟨?_, fun c hc => hds.2 c (List.mem_of_mem_take hc)⟩, fun hlt =>
    ⟨?_, fun c hc => hds.2 c (List.mem_of_mem_drop hc)⟩⟩
  · rw [Ne, List.take_eq_nil_iff]
    exact fun h => h.elim hn.ne' hds.1
  · rw [Ne, List.drop_eq_nil_iff]
    exact Nat.not_le.mpr hlt

theorem head?_take {n : Nat} (hn : 0 < n) (ds : List Char) : (ds.take n).head? = ds.head? := by
  rw [List.head?_take, if_neg hn.ne']

end

/-! ## Texts of numbers -/

/-- Digits without a zero in front are laid out as a number, wherever the point comes. -/
theorem magnitude_layOut {ds : List Char} (hds : Digits ds) (hzero : ds.head? ≠ some '0')
    (p : Int) : Magnitude (layOut ds p) := by
  unfold layOut
  dsimp only
  split
  · -- All digits stand in front of the point, and perhaps zeros behind them.
    refine ⟨_, _, _, .inr ⟨hds.append fun _ => isDigit_of_mem_zeros, ?_⟩,
      .inr ⟨['0'], digits_zero, rfl⟩, .inl rfl, (List.append_nil _).symm⟩
    rwa [List.head?_append_of_ne_nil _ hds.1]
  split
  · -- The point stands between them.
    obtain ⟨hfront, hbehind⟩ := hds.cut (n := (ds.length + p).toNat) (by omega)
    refine ⟨_, _, _, .inr ⟨hfront, ?_⟩, .inr ⟨_, hbehind (by omega), rfl⟩, .inl rfl,
      (List.append_nil _).symm⟩
    rwa [head?_take (by omega)]
  split
  · -- They all stand behind it, and perhaps zeros in front of them.
    exact ⟨['0'], _, _, .inl rfl, .inr ⟨_, hds.prepend fun _ => isDigit_of_mem_zeros, rfl⟩,
      .inl rfl, (List.append_nil _).symm⟩
  · obtain ⟨hfront, hbehind⟩ := hds.cut Nat.one_pos
    have hwhole : IntegerPart (ds.take 1) := .inr ⟨hfront, by rwa [head?_take Nat.one_pos]⟩
    have hfraction : FractionPart (if ds.length ≤ 1 then [] else '.' :: ds.drop 1) := by
      split
      · exact .inl rfl
      · next hmore => exact .inr ⟨_, hbehind (Nat.not_le.mp hmore), rfl⟩
    refine ⟨_, _, _, hwhole, hfraction, .inr ⟨'e', [_], _, .inl rfl, .inr ?_, digits_toDigits _,
      rfl⟩, rfl⟩
    split
    · exact .inr rfl
    · exact .inl rfl

theorem magnitude_toDigits (n : Nat) : Magnitude (Nat.toDigits 10 n) :=
  ⟨_, [], [], integerPart_toDigits n, .inl rfl, .inl rfl, by simp⟩

theorem magnitude_magnitudeText (x : Binary64) : Magnitude (magnitudeText x) := by
  rw [magnitudeText]
  split
  · exact ⟨['0'], ['.', '0'], [], .inl rfl, .inr ⟨['0'], digits_zero, rfl⟩, .inl rfl, rfl⟩
  · next hzero =>
    have hshortest := Binary64.shortest_ne_zero (eq_false_of_ne_true hzero)
    exact magnitude_layOut (digits_toDigits _) (Text.head?_toDigits hshortest) _

/-- A number as it is written has a minus sign in front, or none. -/
theorem Number.text_cases : ∀ n : Number,
    Magnitude n.text ∨ ∃ t, Magnitude t ∧ n.text = '-' :: t
  | .integer (.ofNat n) => .inl (magnitude_toDigits n)
  | .integer (.negSucc n) => .inr ⟨_, magnitude_toDigits (n + 1), rfl⟩
  | .double x => by
      rw [Number.text, doubleText]
      split
      · exact .inr ⟨_, magnitude_magnitudeText x, rfl⟩
      · exact .inl (magnitude_magnitudeText x)

theorem wellFormed_numberText (n : Number) : WellFormed n.text := by
  rcases n.text_cases with ht | ⟨t, ht, htext⟩
  · exact .positive ht
  · rw [htext]
    exact .negative ht

/-! ## Characters of numbers -/

/-- The characters that numbers are written with. -/
def NumberChar (c : Char) : Prop :=
  c.isDigit = true ∨ c ∈ ['.', 'e', 'E', '+', '-']

theorem Magnitude.numberChar {t : List Char} (h : Magnitude t) : ∀ c ∈ t, NumberChar c := by
  obtain ⟨whole, fraction, exponent, hwhole, hfraction, hexponent, rfl⟩ := h
  simp only [List.forall_mem_append]
  refine ⟨⟨?_, ?_⟩, ?_⟩
  · rcases hwhole with rfl | ⟨⟨-, hdigits⟩, -⟩
    · exact List.forall_mem_singleton.mpr (.inl rfl)
    · exact fun c hc => .inl (hdigits c hc)
  · rcases hfraction with rfl | ⟨ds, ⟨-, hdigits⟩, rfl⟩
    · exact nofun
    · exact List.forall_mem_cons.mpr ⟨.inr (by decide), fun c hc => .inl (hdigits c hc)⟩
  · rcases hexponent with rfl | ⟨e, sign, ds, he, hsign, ⟨-, hdigits⟩, rfl⟩
    · exact nofun
    · simp only [List.cons_append, List.forall_mem_cons, List.forall_mem_append]
      refine ⟨?_, ?_, fun c hc => .inl (hdigits c hc)⟩
      · rcases he with rfl | rfl <;> exact .inr (by decide)
      · rcases hsign with rfl | rfl | rfl
        · exact nofun
        · exact List.forall_mem_singleton.mpr (.inr (by decide))
        · exact List.forall_mem_singleton.mpr (.inr (by decide))

theorem Number.numberChar (n : Number) : ∀ c ∈ n.text, NumberChar c := by
  rcases n.text_cases with ht | ⟨t, ht, htext⟩
  · exact ht.numberChar
  · rw [htext]
    exact List.forall_mem_cons.mpr ⟨.inr (by decide), ht.numberChar⟩

/-- None of them is a blank, a control character or a quote. -/
theorem NumberChar.bounds {c : Char} (h : NumberChar c) : 0x20 < c.toNat ∧ c ≠ '"' := by
  rcases h with hdigit | hmark
  · have hbounds := Text.digit_bounds hdigit
    refine ⟨by omega, ?_⟩
    rintro rfl
    cases hdigit
  · have hall : ['.', 'e', 'E', '+', '-'].all (fun d => decide (0x20 < d.toNat ∧ d ≠ '"')) = true :=
      rfl
    exact of_decide_eq_true (List.all_eq_true.mp hall c hmark)

end Json

end StubHttp
