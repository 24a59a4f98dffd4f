import Mathlib.Data.List.TakeWhile
import Mathlib.Tactic.SplitIfs
import StubHttp.Json.Lexeme
import StubHttp.Proofs.Json.Grammar
import StubHttp.Proofs.Outcome

/-!
# Strings against the grammar

The readers of blanks, escapes and strings take exactly what the grammar has
for them. `string` gives the characters that a literal spells
(`string_eq_ok_iff`); `skipString` passes over whatever is well escaped
(`skipString_eq_ok_iff`). A string ends at its first unescaped quote, so
neither needs to know what comes after.
-/

namespace StubHttp.Json

/-! ## Blanks -/

theorem isBlank_iff {c : Char} :
    isBlank c = true ↔ c = ' ' ∨ c = '\n' ∨ c = '\t' ∨ c = '\r' := by
  simp [isBlank, or_assoc]

theorem Blank.nil : Blank [] := nofun

theorem Blank.append {b b' : List Char} (hb : Blank b) (hb' : Blank b') : Blank (b ++ b') :=
  fun c hc => (List.mem_append.mp hc).elim (hb c) (hb' c)

theorem skipBlanks_append {b : List Char} (hb : Blank b) (cs : List Char) :
    skipBlanks (b ++ cs) = skipBlanks cs :=
  List.dropWhile_append_of_pos fun c hc => isBlank_iff.mpr (hb c hc)

theorem skipBlanks_cons {c : Char} (hc : isBlank c = false) (cs : List Char) :
    skipBlanks (c :: cs) = c :: cs :=
  List.dropWhile_cons_of_neg (by simp [hc])

theorem skipBlanks_eq_cons_iff {cs rest : List Char} {c : Char} :
    skipBlanks cs = c :: rest ↔ isBlank c = false ∧ ∃ b, Blank b ∧ cs = b ++ c :: rest := by
  constructor
  · intro h
    refine ⟨?_, cs.takeWhile isBlank, fun d hd => isBlank_iff.mp (List.mem_takeWhile_imp hd), ?_⟩
    · have hhead := List.head?_dropWhile_not isBlank cs
      rw [show cs.dropWhile isBlank = c :: rest from h] at hhead
      simpa using hhead
    · rw [← h, skipBlanks, List.takeWhile_append_dropWhile]
  · rintro ⟨hc, b, hb, rfl⟩
    rw [skipBlanks_append hb, skipBlanks_cons hc]

theorem skipBlanks_eq_nil_iff {cs : List Char} : skipBlanks cs = [] ↔ Blank cs := by
  rw [skipBlanks, List.dropWhile_eq_nil_iff]
  exact forall₂_congr fun c _ => isBlank_iff

/-! ## Escapes -/

theorem four_le_byteCount (a b c d : Char) : 4 ≤ byteCount [a, b, c, d] := by
  have ha := a.utf8Size_pos
  have hb := b.utf8Size_pos
  have hc := c.utf8Size_pos
  have hd := d.utf8Size_pos
  simp only [byteCount, List.foldl_cons, List.foldl_nil]
  omega

theorem hexFour_eq_ok_iff {cs rest : List Char} {n : Nat} :
    hexFour cs = .ok (n, rest) ↔ ∃ ds, HexFour ds n ∧ cs = ds ++ rest := by
  constructor
  · intro h
    unfold hexFour at h
    split at h
    · cases h
    split at h
    · next a b c d left _ =>
      split at h
      · next p q r s hp hq hr hs =>
        cases h
        exact ⟨[a, b, c, d], ⟨a, b, c, d, p, q, r, s, rfl, hp, hq, hr, hs, rfl⟩, rfl⟩
      · cases h
    · cases h
  · rintro ⟨ds, ⟨a, b, c, d, p, q, r, s, rfl, hp, hq, hr, hs, rfl⟩, rfl⟩
    have hbytes := four_le_byteCount a b c d
    show (if byteCount [a, b, c, d] < 4 then _ else _) = _
    rw [if_neg (by omega)]
    simp only [List.cons_append, List.nil_append, hp, hq, hr, hs]

theorem isTrailingSurrogate_iff {n : Nat} :
    isTrailingSurrogate n = true ↔ 0xDC00 ≤ n ∧ n ≤ 0xDFFF := by
  simp [isTrailingSurrogate]

theorem isLeadingSurrogate_iff {n : Nat} :
    isLeadingSurrogate n = true ↔ 0xD800 ≤ n ∧ n ≤ 0xDBFF := by
  simp [isLeadingSurrogate]

theorem trailingHalf_eq_ok_iff {cs rest : List Char} {n : Nat} :
    trailingHalf cs = .ok (n, rest) ↔
      ∃ ds, HexFour ds n ∧ 0xDC00 ≤ n ∧ n ≤ 0xDFFF ∧ cs = '\\' :: 'u' :: ds ++ rest := by
  constructor
  · intro h
    unfold trailingHalf at h
    split at h
    · cases h
    · split at h
      · cases h
      · next digits =>
        obtain ⟨⟨m, left⟩, hhex, h⟩ := bind_eq_ok_iff.mp h
        dsimp only at h
        split at h
        · next htrail =>
          cases h
          obtain ⟨ds, hds, rfl⟩ := hexFour_eq_ok_iff.mp hhex
          obtain ⟨hlow, hhigh⟩ := isTrailingSurrogate_iff.mp htrail
          exact ⟨ds, hds, hlow, hhigh, rfl⟩
        · cases h
      · cases h
    · cases h
  · rintro ⟨ds, hds, hlow, hhigh, rfl⟩
    have hhex : hexFour (ds ++ rest) = .ok (n, rest) := hexFour_eq_ok_iff.mpr ⟨ds, hds, rfl⟩
    simp only [List.cons_append, trailingHalf, hhex, ok_bind]
    rw [if_pos (isTrailingSurrogate_iff.mpr ⟨hlow, hhigh⟩)]
    rfl

theorem simpleEscape?_eq_some_iff {e c : Char} :
    simpleEscape? e = some c ↔ (e, c) ∈ shortEscapes := by
  constructor
  · intro h
    unfold simpleEscape? at h
    split_ifs at h with hself hb hf hn hr ht
    all_goals obtain rfl := Option.some.inj h
    · rcases hself with rfl | rfl | rfl <;> simp [shortEscapes]
    all_goals subst e; simp [shortEscapes]
  · intro h
    simp only [shortEscapes, List.mem_cons, List.not_mem_nil, or_false, Prod.mk.injEq] at h
    rcases h with h | h | h | h | h | h | h | h <;> obtain ⟨rfl, rfl⟩ := h <;> rfl

/-- Whatever is a short escape does not begin with the letter of the long ones. -/
theorem ne_u_of_mem_shortEscapes {e c : Char} (h : (e, c) ∈ shortEscapes) : e ≠ 'u' := by
  rintro rfl
  simp [shortEscapes] at h

theorem unicodeEscape_eq_ok_iff {cs rest : List Char} {c : Char} :
    unicodeEscape cs = .ok (c, rest) ↔ ∃ e, Escape ('u' :: e) c ∧ cs = e ++ rest := by
  constructor
  · intro h
    obtain ⟨⟨m, left⟩, hhex, hchar⟩ := bind_eq_ok_iff.mp h
    obtain ⟨ds, hds, rfl⟩ := hexFour_eq_ok_iff.mp hhex
    dsimp only at hchar
    split_ifs at hchar with htrail hlead
    · obtain ⟨⟨n, left'⟩, hhalf, hpair⟩ := bind_eq_ok_iff.mp hchar
      obtain ⟨rfl, rfl⟩ := Prod.mk.inj (pure_eq_ok_iff.mp hpair)
      obtain ⟨hm, hm'⟩ := isLeadingSurrogate_iff.mp hlead
      obtain ⟨low, hlow, hn, hn', rfl⟩ := trailingHalf_eq_ok_iff.mp hhalf
      exact ⟨ds ++ '\\' :: 'u' :: low, .pair hds hm hm' hlow hn hn', by simp⟩
    · cases hchar
      rw [isTrailingSurrogate_iff] at htrail
      rw [isLeadingSurrogate_iff] at hlead
      exact ⟨ds, .unicode hds (by omega), rfl⟩
  · rintro ⟨e, he, rfl⟩
    generalize ht : 'u' :: e = t at he
    cases he with
    | short h => cases ht; exact absurd rfl (ne_u_of_mem_shortEscapes h)
    | @unicode ds n hds hn =>
        cases ht
        have hhex : hexFour (e ++ rest) = .ok (n, rest) := hexFour_eq_ok_iff.mpr ⟨e, hds, rfl⟩
        rw [unicodeEscape, hhex, ok_bind]
        dsimp only
        rw [if_neg (by rw [isTrailingSurrogate_iff]; omega),
          if_neg (by rw [isLeadingSurrogate_iff]; omega)]
        rfl
    | @pair high low m n hhigh hm hm' hlow hn hn' =>
        obtain rfl : e = high ++ '\\' :: 'u' :: low := (List.cons.inj ht).2
        have hhex : hexFour (high ++ ('\\' :: 'u' :: low ++ rest))
            = .ok (m, '\\' :: 'u' :: low ++ rest) := hexFour_eq_ok_iff.mpr ⟨high, hhigh, rfl⟩
        have hhalf : trailingHalf ('\\' :: 'u' :: low ++ rest) = .ok (n, rest) :=
          trailingHalf_eq_ok_iff.mpr ⟨low, hlow, hn, hn', rfl⟩
        rw [unicodeEscape, List.append_assoc, hhex, ok_bind]
        dsimp only
        rw [if_neg (by rw [isTrailingSurrogate_iff]; omega),
          if_pos (isLeadingSurrogate_iff.mpr ⟨hm, hm'⟩), hhalf]
        rfl

/-- An escape of the long kind begins with a `u`, every other with itself. -/
theorem Escape.of_cons {d c : Char} {e : List Char} (h : Escape (d :: e) c) :
    d = 'u' ∨ d ≠ 'u' ∧ e = [] ∧ (d, c) ∈ shortEscapes := by
  generalize ht : d :: e = t at h
  cases h with
  | short h =>
      cases ht
      exact .inr ⟨ne_u_of_mem_shortEscapes h, rfl, h⟩
  | unicode => exact .inl (List.cons.inj ht).1
  | pair => exact .inl (List.cons.inj ht).1

theorem Escape.ne_nil {e : List Char} {c : Char} (h : Escape e c) : e ≠ [] := by
  cases h <;> nofun

theorem escape_eq_ok_iff {cs rest : List Char} {c : Char} :
    escape cs = .ok (c, rest) ↔ ∃ e, Escape e c ∧ cs = e ++ rest := by
  constructor
  · intro h
    unfold escape at h
    split at h
    · cases h
    · next d cs =>
      split_ifs at h with hu
      · obtain ⟨e, he, rfl⟩ := unicodeEscape_eq_ok_iff.mp h
        exact ⟨'u' :: e, he, by rw [hu]; rfl⟩
      · split at h
        · next c' hc =>
          cases h
          exact ⟨[d], .short (simpleEscape?_eq_some_iff.mp hc), rfl⟩
        · cases h
  · rintro ⟨e, he, rfl⟩
    obtain ⟨d, e, rfl⟩ := List.exists_cons_of_ne_nil he.ne_nil
    rw [List.cons_append, escape]
    rcases he.of_cons with rfl | ⟨hu, rfl, hshort⟩
    · rw [if_pos rfl]
      exact unicodeEscape_eq_ok_iff.mpr ⟨e, he, rfl⟩
    · rw [if_neg hu, simpleEscape?_eq_some_iff.mpr hshort]
      rfl

theorem skipEscape_eq_ok_iff {cs rest : List Char} :
    skipEscape cs = .ok rest ↔ ∃ e, LooseEscape e ∧ cs = e ++ rest := by
  constructor
  · intro h
    unfold skipEscape at h
    split at h
    · cases h
    · next d cs =>
      split_ifs at h with hu hshort
      · obtain ⟨⟨n, left⟩, hhex, h⟩ := bind_eq_ok_iff.mp h
        cases h
        obtain ⟨ds, hds, rfl⟩ := hexFour_eq_ok_iff.mp hhex
        exact ⟨'u' :: ds, .unicode hds, by rw [hu]; rfl⟩
      · cases h
        obtain ⟨c, hc⟩ := Option.isSome_iff_exists.mp hshort
        exact ⟨[d], .short (simpleEscape?_eq_some_iff.mp hc), rfl⟩
  · rintro ⟨e, he, rfl⟩
    cases he with
    | @short e c h =>
        have hc : simpleEscape? e = some c := simpleEscape?_eq_some_iff.mpr h
        rw [List.cons_append, skipEscape, if_neg (ne_u_of_mem_shortEscapes h), hc]
        rfl
    | @unicode ds n hds =>
        have hhex : hexFour (ds ++ rest) = .ok (n, rest) := hexFour_eq_ok_iff.mpr ⟨ds, hds, rfl⟩
        rw [List.cons_append, skipEscape, if_pos rfl, hhex]
        rfl

/-! ## Strings -/

theorem isControl_eq_true_iff {c : Char} : isControl c = true ↔ c.toNat < 0x20 := by
  simp [isControl]

theorem spells_of_stringWithin :
    ∀ {bound cs meant rest : List Char}, stringWithin bound cs = .ok (meant, rest) →
      ∃ w, Spells w meant ∧ cs = w ++ '"' :: rest
  | [], _, _, _, h => by cases h
  | _ :: _, [], _, _, h => by cases h
  | _ :: bound, c :: cs, meant, rest, h => by
      rw [stringWithin] at h
      split_ifs at h with hquote hback hcontrol
      · cases h
        exact ⟨[], .nil, by rw [hquote]; rfl⟩
      · obtain ⟨⟨d, left⟩, hescape, h⟩ := bind_eq_ok_iff.mp h
        obtain ⟨⟨ds, left'⟩, hstring, h⟩ := bind_eq_ok_iff.mp h
        cases h
        obtain ⟨e, he, rfl⟩ := escape_eq_ok_iff.mp hescape
        obtain ⟨w, hw, rfl⟩ := spells_of_stringWithin hstring
        exact ⟨'\\' :: e ++ w, .escaped he hw, by simp [hback]⟩
      · obtain ⟨⟨ds, left⟩, hstring, h⟩ := bind_eq_ok_iff.mp h
        cases h
        obtain ⟨w, hw, rfl⟩ := spells_of_stringWithin hstring
        rw [isControl_eq_true_iff] at hcontrol
        exact ⟨c :: w, .plain ⟨hquote, hback, by omega⟩ hw, rfl⟩

theorem stringWithin_of_spells {w meant : List Char} (h : Spells w meant) :
    ∀ {bound : List Char} (rest : List Char), w.length < bound.length →
      stringWithin bound (w ++ '"' :: rest) = .ok (meant, rest) := by
  induction h with
  | nil =>
      intro bound rest hlt
      obtain ⟨_, bound, rfl⟩ := List.exists_cons_of_length_pos hlt
      rw [List.nil_append, stringWithin, if_pos rfl]
  | @plain c w meant hc _ ih =>
      intro bound rest hlt
      obtain ⟨_, bound, rfl⟩ := List.exists_cons_of_length_pos (Nat.zero_lt_of_lt hlt)
      obtain ⟨hquote, hback, hcontrol⟩ := hc
      rw [List.cons_append, stringWithin, if_neg hquote, if_neg hback,
        if_neg (by rw [isControl_eq_true_iff]; omega), ih rest (Nat.lt_of_succ_lt_succ hlt)]
      rfl
  | @escaped e w meant c he _ ih =>
      intro bound rest hlt
      obtain ⟨_, bound, rfl⟩ := List.exists_cons_of_length_pos (Nat.zero_lt_of_lt hlt)
      have hescape : escape (e ++ (w ++ '"' :: rest)) = .ok (c, w ++ '"' :: rest) :=
        escape_eq_ok_iff.mpr ⟨e, he, rfl⟩
      have hlt' : w.length < bound.length := by
        simp only [List.length_append, List.length_cons] at hlt
        omega
      rw [List.cons_append, List.cons_append, List.append_assoc, stringWithin,
        if_neg (by decide), if_pos rfl, hescape, ok_bind]
      dsimp only
      rw [ih rest hlt']
      rfl

theorem string_eq_ok_iff {cs meant rest : List Char} :
    string cs = .ok (meant, rest) ↔ ∃ w, Spells w meant ∧ cs = w ++ '"' :: rest := by
  refine ⟨spells_of_stringWithin, ?_⟩
  rintro ⟨w, hw, rfl⟩
  exact stringWithin_of_spells hw rest (by simp)

theorem wellEscaped_of_skipStringWithin :
    ∀ {bound cs rest : List Char}, skipStringWithin bound cs = .ok rest →
      ∃ w, WellEscaped w ∧ cs = w ++ '"' :: rest
  | [], _, _, h => by cases h
  | _ :: _, [], _, h => by cases h
  | _ :: bound, c :: cs, rest, h => by
      rw [skipStringWithin] at h
      split_ifs at h with hquote hback hcontrol
      · cases h
        exact ⟨[], .nil, by rw [hquote]; rfl⟩
      · obtain ⟨left, hescape, hstring⟩ := bind_eq_ok_iff.mp h
        obtain ⟨e, he, rfl⟩ := skipEscape_eq_ok_iff.mp hescape
        obtain ⟨w, hw, rfl⟩ := wellEscaped_of_skipStringWithin hstring
        exact ⟨'\\' :: e ++ w, .escaped he hw, by simp [hback]⟩
      · obtain ⟨w, hw, rfl⟩ := wellEscaped_of_skipStringWithin h
        rw [isControl_eq_true_iff] at hcontrol
        exact ⟨c :: w, .plain ⟨hquote, hback, by omega⟩ hw, rfl⟩

theorem skipStringWithin_of_wellEscaped {w : List Char} (h : WellEscaped w) :
    ∀ {bound : List Char} (rest : List Char), w.length < bound.length →
      skipStringWithin bound (w ++ '"' :: rest) = .ok rest := by
  induction h with
  | nil =>
      intro bound rest hlt
      obtain ⟨_, bound, rfl⟩ := List.exists_cons_of_length_pos hlt
      rw [List.nil_append, skipStringWithin, if_pos rfl]
  | @plain c w hc _ ih =>
      intro bound rest hlt
      obtain ⟨_, bound, rfl⟩ := List.exists_cons_of_length_pos (Nat.zero_lt_of_lt hlt)
      obtain ⟨hquote, hback, hcontrol⟩ := hc
      rw [List.cons_append, skipStringWithin, if_neg hquote, if_neg hback,
        if_neg (by rw [isControl_eq_true_iff]; omega), ih rest (Nat.lt_of_succ_lt_succ hlt)]
  | @escaped e w he _ ih =>
      intro bound rest hlt
      obtain ⟨_, bound, rfl⟩ := List.exists_cons_of_length_pos (Nat.zero_lt_of_lt hlt)
      have hescape : skipEscape (e ++ (w ++ '"' :: rest)) = .ok (w ++ '"' :: rest) :=
        skipEscape_eq_ok_iff.mpr ⟨e, he, rfl⟩
      have hlt' : w.length < bound.length := by
        simp only [List.length_append, List.length_cons] at hlt
        omega
      rw [List.cons_append, List.cons_append, List.append_assoc, skipStringWithin,
        if_neg (by decide), if_pos rfl, hescape, ok_bind, ih rest hlt']

theorem skipString_eq_ok_iff {cs rest : List Char} :
    skipString cs = .ok rest ↔ ∃ w, WellEscaped w ∧ cs = w ++ '"' :: rest := by
  refine ⟨wellEscaped_of_skipStringWithin, ?_⟩
  rintro ⟨w, hw, rfl⟩
  exact skipStringWithin_of_wellEscaped hw rest (by simp)

end StubHttp.Json
