import Mathlib.Data.List.TakeWhile
import Mathlib.Tactic.SplitIfs
import StubHttp.Json.Lexeme
import StubHttp.Proofs.Json.Grammar
import StubHttp.Proofs.Outcome
import StubHttp.Proofs.Text.Digits

/-!
# Numbers against the grammar

A number has no mark at its end, so `skipNumber` takes all that may belong to
it. What it takes is a number of the grammar (`skipNumber_sound`), and it takes
all of one if what follows cannot go on with it (`skipNumber_append`). Blanks,
commas and brackets cannot, and neither can the end of the text
(`EndsNumber`).
-/

namespace StubHttp.Json

/-! ## Where a number ends -/

/-- A text that cannot go on with digits in front of it. -/
def EndsDigits (cs : List Char) : Prop :=
  ∀ c ∈ cs.head?, c.isDigit = false

/-- A text that cannot go on with a number in front of it. -/
def EndsNumber (cs : List Char) : Prop :=
  ∀ c ∈ cs.head?, c.isDigit = false ∧ c ≠ '.' ∧ c ≠ 'e' ∧ c ≠ 'E'

theorem EndsNumber.nil : EndsNumber [] := nofun

theorem EndsNumber.endsDigits {cs : List Char} (h : EndsNumber cs) : EndsDigits cs :=
  fun c hc => (h c hc).1

theorem digits_sound (cs : List Char) :
    (∀ c ∈ (digits cs).1, c.isDigit = true) ∧ cs = (digits cs).1 ++ (digits cs).2 :=
  ⟨fun _ => List.mem_takeWhile_imp, List.takeWhile_append_dropWhile.symm⟩

theorem digits_append {ds rest : List Char} (hds : ∀ c ∈ ds, c.isDigit = true)
    (hrest : EndsDigits rest) : digits (ds ++ rest) = (ds, rest) := by
  have htake := Text.takeWhile_append_of_stops hds hrest
  have hsplit := List.takeWhile_append_dropWhile (p := Char.isDigit) (l := ds ++ rest)
  rw [htake] at hsplit
  rw [digits, htake, List.append_cancel_left hsplit]

theorem exponentSign_sound (cs : List Char) :
    ∃ sign, (sign = [] ∨ sign = ['+'] ∨ sign = ['-']) ∧ cs = sign ++ (exponentSign cs).2 := by
  unfold exponentSign
  split
  · exact ⟨['+'], .inr (.inl rfl), rfl⟩
  · exact ⟨['-'], .inr (.inr rfl), rfl⟩
  · exact ⟨[], .inl rfl, rfl⟩

theorem exponentSign_append {sign ds : List Char} (rest : List Char)
    (hsign : sign = [] ∨ sign = ['+'] ∨ sign = ['-']) (hds : Digits ds) :
    (exponentSign (sign ++ ds ++ rest)).2 = ds ++ rest := by
  rcases hsign with rfl | rfl | rfl
  · obtain ⟨c, ds, rfl⟩ := List.exists_cons_of_ne_nil hds.1
    have hc : c.isDigit = true := hds.2 c (List.mem_cons_self ..)
    rw [List.nil_append, List.cons_append]
    unfold exponentSign
    split
    · next heq => obtain rfl := (List.cons.inj heq).1; simp at hc
    · next heq => obtain rfl := (List.cons.inj heq).1; simp at hc
    · rfl
  · rfl
  · rfl

theorem skipExponent_sound {cs rest : List Char} (h : skipExponent cs = .ok rest) :
    ∃ sign ds, (sign = [] ∨ sign = ['+'] ∨ sign = ['-']) ∧ Digits ds ∧
      cs = sign ++ ds ++ rest := by
  obtain ⟨sign, hsign, hcs⟩ := exponentSign_sound cs
  rw [skipExponent] at h
  split at h
  · cases h
  · next c left heq =>
    split_ifs at h with hc
    cases h
    obtain ⟨hdigits, hleft⟩ := digits_sound left
    refine ⟨sign, c :: (digits left).1, hsign, ⟨nofun, ?_⟩, ?_⟩
    · exact List.forall_mem_cons.mpr ⟨hc, hdigits⟩
    · rw [hcs, heq, List.append_assoc, List.cons_append, ← hleft]

theorem skipExponent_append {sign ds rest : List Char}
    (hsign : sign = [] ∨ sign = ['+'] ∨ sign = ['-']) (hds : Digits ds) (hrest : EndsDigits rest) :
    skipExponent (sign ++ ds ++ rest) = .ok rest := by
  rw [skipExponent, exponentSign_append rest hsign hds]
  obtain ⟨c, ds, rfl⟩ := List.exists_cons_of_ne_nil hds.1
  obtain ⟨hc, hall⟩ := List.forall_mem_cons.mp hds.2
  rw [List.cons_append]
  dsimp only
  rw [if_pos hc, digits_append hall hrest]

/-- The exponent of a number passed over, if there is one. -/
def skipExponentPart (cs : List Char) : Attempt (List Char) :=
  if atExponent cs then skipExponent (cs.drop 1) else .ok cs

theorem atExponent_cons {c : Char} {cs : List Char} :
    atExponent (c :: cs) = true ↔ c = 'e' ∨ c = 'E' := by
  simp [atExponent]

theorem skipExponentPart_sound {cs rest : List Char} (h : skipExponentPart cs = .ok rest) :
    ∃ e, ExponentPart e ∧ cs = e ++ rest := by
  rw [skipExponentPart] at h
  split_ifs at h with hat
  · cases cs with
    | nil => cases hat
    | cons c cs =>
        obtain ⟨sign, ds, hsign, hds, hcs⟩ := skipExponent_sound h
        refine ⟨c :: sign ++ ds, .inr ⟨c, sign, ds, atExponent_cons.mp hat, hsign, hds, rfl⟩, ?_⟩
        rw [show cs = sign ++ ds ++ rest from hcs]
        rfl
  · cases h
    exact ⟨[], .inl rfl, rfl⟩

theorem skipExponentPart_append {e rest : List Char} (he : ExponentPart e)
    (hrest : EndsNumber rest) : skipExponentPart (e ++ rest) = .ok rest := by
  rw [skipExponentPart]
  rcases he with rfl | ⟨c, sign, ds, hc, hsign, hds, rfl⟩
  · rw [List.nil_append, if_neg]
    cases rest with
    | nil => exact nofun
    | cons c cs =>
        obtain ⟨-, -, he, hE⟩ := hrest c rfl
        rw [atExponent_cons]
        exact fun h => h.elim he hE
  · rw [List.cons_append, List.cons_append, if_pos (atExponent_cons.mpr hc)]
    exact skipExponent_append hsign hds hrest.endsDigits

theorem ExponentPart.endsDigits {e rest : List Char} (he : ExponentPart e)
    (hrest : EndsDigits rest) : EndsDigits (e ++ rest) := by
  rcases he with rfl | ⟨c, sign, ds, hc | hc, -, -, rfl⟩
  · exact hrest
  all_goals
    rintro d ⟨⟩
    rw [hc]
    decide

theorem skipAfterInteger_sound {cs rest : List Char} (h : skipAfterInteger cs = .ok rest) :
    ∃ f e, FractionPart f ∧ ExponentPart e ∧ cs = f ++ e ++ rest := by
  unfold skipAfterInteger at h
  split at h
  · next cs =>
    dsimp only at h
    split at h
    · cases h
    · next hempty =>
      obtain ⟨hdigits, hcs⟩ := digits_sound cs
      obtain ⟨e, he, hleft⟩ := skipExponentPart_sound h
      refine ⟨'.' :: (digits cs).1, e, .inr ⟨_, ⟨?_, hdigits⟩, rfl⟩, he, ?_⟩
      · rwa [List.isEmpty_iff] at hempty
      · rw [List.append_assoc, ← hleft, List.cons_append, ← hcs]
  · obtain ⟨e, he, hleft⟩ := skipExponentPart_sound h
    exact ⟨[], e, .inl rfl, he, hleft⟩

theorem skipAfterInteger_append {f e rest : List Char} (hf : FractionPart f) (he : ExponentPart e)
    (hrest : EndsNumber rest) : skipAfterInteger (f ++ e ++ rest) = .ok rest := by
  have hexponent := skipExponentPart_append he hrest
  rcases hf with rfl | ⟨ds, ⟨hne, hds⟩, rfl⟩
  · rw [List.nil_append]
    unfold skipAfterInteger
    split
    · next heq =>
      rcases he with rfl | ⟨c, sign, ds, hc | hc, -, -, rfl⟩
      · rw [List.nil_append] at heq
        exact absurd rfl (hrest '.' (by rw [heq]; rfl)).2.1
      all_goals
        obtain rfl := (List.cons.inj heq).1
        exact absurd hc (by decide)
    · exact hexponent
  · rw [List.cons_append, List.cons_append, List.append_assoc, skipAfterInteger,
      digits_append hds (he.endsDigits hrest.endsDigits)]
    dsimp only
    rw [if_neg (by rwa [List.isEmpty_iff])]
    exact hexponent

/-- What follows the integer part of a number is not a digit. -/
theorem FractionPart.endsDigits {f rest : List Char} (hf : FractionPart f)
    (hrest : EndsDigits rest) : EndsDigits (f ++ rest) := by
  rcases hf with rfl | ⟨ds, -, rfl⟩
  · exact hrest
  · rintro d ⟨⟩
    decide

theorem skipNumber_sound {cs rest : List Char} (h : skipNumber cs = .ok rest) :
    ∃ t, Magnitude t ∧ cs = t ++ rest := by
  unfold skipNumber at h
  split at h
  · cases h
  · next left =>
    split at h
    · next c left =>
      split_ifs at h
      obtain ⟨f, e, hf, he, hleft⟩ := skipAfterInteger_sound h
      exact ⟨['0'] ++ f ++ e, ⟨['0'], f, e, .inl rfl, hf, he, rfl⟩, by rw [hleft]; simp⟩
    · cases h
      exact ⟨['0'], ⟨['0'], [], [], .inl rfl, .inl rfl, .inl rfl, rfl⟩, rfl⟩
  · next c left hzero =>
    split_ifs at h with hc
    obtain ⟨f, e, hf, he, hleft⟩ := skipAfterInteger_sound h
    obtain ⟨hdigits, hcs⟩ := digits_sound (c :: left)
    have hfirst : (digits (c :: left)).1 = c :: left.takeWhile Char.isDigit :=
      List.takeWhile_cons_of_pos hc
    refine ⟨(digits (c :: left)).1 ++ f ++ e, ⟨_, f, e, .inr ⟨⟨?_, hdigits⟩, ?_⟩, hf, he, rfl⟩, ?_⟩
    · rw [hfirst]
      nofun
    · rw [hfirst]
      rintro ⟨⟩
      exact hzero rfl
    · rw [List.append_assoc, List.append_assoc, ← List.append_assoc f, ← hleft, ← hcs]

theorem skipNumber_append {t rest : List Char} (ht : Magnitude t) (hrest : EndsNumber rest) :
    skipNumber (t ++ rest) = .ok rest := by
  obtain ⟨whole, f, e, hwhole, hf, he, rfl⟩ := ht
  have hafter := skipAfterInteger_append hf he hrest
  have hends : EndsDigits (f ++ e ++ rest) := by
    rw [List.append_assoc]
    exact hf.endsDigits (he.endsDigits hrest.endsDigits)
  rw [List.append_assoc whole, List.append_assoc whole]
  rcases hwhole with rfl | ⟨⟨hne, hdigits⟩, hzero⟩
  · rw [List.cons_append, List.nil_append]
    generalize f ++ e ++ rest = left at hafter hends
    cases left with
    | nil => exact hafter
    | cons c left =>
        have hc : ¬ c.isDigit = true := by rw [hends c rfl]; decide
        rw [skipNumber, if_neg hc, hafter]
  · obtain ⟨c, whole, rfl⟩ := List.exists_cons_of_ne_nil hne
    have hc : c.isDigit = true := hdigits c (List.mem_cons_self ..)
    have hsplit : digits (c :: whole ++ (f ++ e ++ rest)) = (c :: whole, f ++ e ++ rest) :=
      digits_append hdigits hends
    rw [List.cons_append] at hsplit ⊢
    unfold skipNumber
    split
    · next heq => cases heq
    · next heq => exact absurd (congrArg some (List.cons.inj heq).1) hzero
    · next d left _ heq =>
      cases heq
      rw [if_pos hc, hsplit, hafter]

/-- A number begins with a digit. -/
theorem Magnitude.starts {t : List Char} (ht : Magnitude t) :
    ∃ c cs, t = c :: cs ∧ c.isDigit = true := by
  obtain ⟨whole, f, e, hwhole, -, -, rfl⟩ := ht
  rcases hwhole with rfl | ⟨⟨hne, hdigits⟩, -⟩
  · exact ⟨'0', f ++ e, rfl, by decide⟩
  · obtain ⟨c, whole, rfl⟩ := List.exists_cons_of_ne_nil hne
    exact ⟨c, whole ++ f ++ e, rfl, hdigits c (List.mem_cons_self ..)⟩

end StubHttp.Json
