import StubHttp.Proofs.Json.Brackets

/-!
# What is passed over is a value

`skip` takes exactly one value of the grammar, however deep it nests: whatever
it passes over is well formed (`skip_sound`), and it passes over every well
formed value (`skip_append`). Only a number needs to know what follows it,
because nothing else marks its end.

Soundness is an induction on the bound, completeness one on the derivation of
the value; a bracket gives a character of the bound for the items inside it, so
a bound as long as the value is enough.
-/

namespace StubHttp.Json

theorem word_eq_ok_iff : ∀ {ks cs rest : List Char}, word ks cs = .ok rest ↔ cs = ks ++ rest
  | [], cs, rest => ⟨Except.ok.inj, congrArg _⟩
  | k :: ks, [], rest => ⟨nofun, nofun⟩
  | k :: ks, c :: cs, rest => by
      rw [word, List.cons_append, List.cons.injEq]
      split
      · next hc => rw [word_eq_ok_iff, and_iff_right hc]
      · next hc => exact ⟨nofun, fun h => absurd h.1 hc⟩

/-! ## Beginnings of values -/

theorem Digit.not_blank {c : Char} (hc : c.isDigit = true) : isBlank c = false := by
  rw [Bool.eq_false_iff, ne_eq, isBlank_iff]
  rintro (rfl | rfl | rfl | rfl) <;> cases hc

theorem WellFormed.starts {t : List Char} (ht : WellFormed t) : Starts t := by
  cases ht with
  | null => exact ⟨_, _, rfl, by decide⟩
  | true => exact ⟨_, _, rfl, by decide⟩
  | false => exact ⟨_, _, rfl, by decide⟩
  | positive h =>
      obtain ⟨c, cs, rfl, hc⟩ := h.starts
      refine ⟨c, cs, rfl, Digit.not_blank hc, ?_, ?_⟩ <;> rintro rfl <;> cases hc
  | negative => exact ⟨_, _, rfl, by decide⟩
  | string => exact ⟨_, _, rfl, by decide⟩
  | array h =>
      obtain ⟨inner, rfl, -⟩ := h
      exact ⟨_, _, rfl, by decide⟩
  | object h =>
      obtain ⟨inner, rfl, -⟩ := h
      exact ⟨_, _, rfl, by decide⟩

theorem MemberText.starts {t : List Char} {m : List Char × List Char} (h : MemberText t m) :
    Starts t := by
  cases h
  exact ⟨_, _, rfl, by decide⟩

/-! ## What is passed over is well formed -/

/-- Members told one by one are members told as a list. -/
theorem exists_forall₂ {α β : Type} {R : α → β → Prop} {Q : β → Prop} :
    ∀ {as : List α}, (∀ a ∈ as, ∃ b, R a b ∧ Q b) → ∃ bs, List.Forall₂ R as bs ∧ ∀ b ∈ bs, Q b
  | [], _ => ⟨[], .nil, nofun⟩
  | a :: as, h => by
      obtain ⟨⟨b, hR, hQ⟩, h⟩ := List.forall_mem_cons.mp h
      obtain ⟨bs, hRs, hQs⟩ := exists_forall₂ h
      exact ⟨b :: bs, .cons hR hRs, List.forall_mem_cons.mpr ⟨hQ, hQs⟩⟩

theorem wellFormed_of_skipWithin :
    ∀ {bound cs rest : List Char}, skipWithin bound cs = .ok rest →
      ∃ b text, Blank b ∧ WellFormed text ∧ cs = b ++ text ++ rest
  | [], _, _, h => by cases h
  | _ :: bound, cs, rest, h => by
      rw [skipWithin] at h
      split at h
      · cases h
      next c left heq =>
      obtain ⟨-, b, hb, rfl⟩ := skipBlanks_eq_cons_iff.mp heq
      -- The blanks in front play no part in what follows.
      suffices ∃ text, WellFormed text ∧ c :: left = text ++ rest by
        obtain ⟨text, htext, hleft⟩ := this
        exact ⟨b, text, hb, htext, by rw [hleft, List.append_assoc]⟩
      split_ifs at h with hn ht hf hquote hminus hdigit hbracket hbrace
      · exact ⟨_, .null, by rw [hn, word_eq_ok_iff.mp h]; rfl⟩
      · exact ⟨_, .true, by rw [ht, word_eq_ok_iff.mp h]; rfl⟩
      · exact ⟨_, .false, by rw [hf, word_eq_ok_iff.mp h]; rfl⟩
      · obtain ⟨w, hw, rfl⟩ := skipString_eq_ok_iff.mp h
        exact ⟨_, .string hw, by rw [hquote]; simp⟩
      · obtain ⟨t, ht, rfl⟩ := skipNumber_sound h
        exact ⟨_, .negative ht, by rw [hminus]; rfl⟩
      · obtain ⟨t, ht, hleft⟩ := skipNumber_sound h
        exact ⟨t, .positive ht, hleft⟩
      · rw [skipItemsWithin_eq] at h
        obtain ⟨t, texts, ht, htexts, rfl⟩ :=
          passWithin_sound (.inl rfl) skipItem?_separator wellFormed_of_skipWithin h
        exact ⟨'[' :: t, .array ⟨t, rfl, ht⟩ htexts, by rw [hbracket]; rfl⟩
      · rw [skipMembersWithin_eq] at h
        have hmember : ∀ {cs rest : List Char}, (skipName cs >>= skipWithin bound) = .ok rest →
            ∃ b text, Blank b ∧ (∃ m, MemberText text m ∧ WellEscaped m.1 ∧ WellFormed m.2) ∧
              cs = b ++ text ++ rest := by
          intro cs rest h
          obtain ⟨left, hname, hvalue⟩ := bind_eq_ok_iff.mp h
          obtain ⟨b, w, b', hb, hw, hb', rfl⟩ := skipName_eq_ok_iff.mp hname
          obtain ⟨b'', v, hb'', hv, rfl⟩ := wellFormed_of_skipWithin hvalue
          exact ⟨b, _, hb, ⟨(w, v), .mk hb' hb'', hw, hv⟩, by simp⟩
        obtain ⟨t, texts, ht, htexts, rfl⟩ :=
          passWithin_sound (.inr rfl) skipMember?_separator hmember h
        obtain ⟨members, hmembers, hall⟩ := exists_forall₂ htexts
        exact ⟨'\x7b' :: t, .object ⟨t, rfl, ht⟩ hmembers (fun m hm => (hall m hm).1)
          (fun m hm => (hall m hm).2), by rw [hbrace]; rfl⟩

theorem skip_sound {cs rest : List Char} (h : skip cs = .ok rest) :
    ∃ b text, Blank b ∧ WellFormed text ∧ cs = b ++ text ++ rest :=
  wellFormed_of_skipWithin h

/-! ## What is well formed is passed over -/

theorem exists_of_forall₂ {α β : Type} {R : α → β → Prop} {as : List α} {bs : List β}
    (h : List.Forall₂ R as bs) : ∀ a ∈ as, ∃ b ∈ bs, R a b := by
  induction h with
  | nil => exact nofun
  | cons hR _ ih =>
      refine List.forall_mem_cons.mpr ⟨⟨_, List.mem_cons_self .., hR⟩, fun a ha => ?_⟩
      obtain ⟨b, hb, hab⟩ := ih a ha
      exact ⟨b, List.mem_cons_of_mem _ hb, hab⟩

theorem skipWithin_blanks {b : List Char} (hb : Blank b) (bound cs : List Char) :
    skipWithin bound (b ++ cs) = skipWithin bound cs := by
  cases bound with
  | nil => rfl
  | cons k bound => rw [skipWithin, skipWithin, skipBlanks_append hb]

/-- Passing over a value is decided by its first character. -/
theorem skipWithin_cons {c : Char} (hc : isBlank c = false) (k : Char) (bound cs : List Char) :
    skipWithin (k :: bound) (c :: cs) =
      if c = 'n' then word ['u', 'l', 'l'] cs
      else if c = 't' then word ['r', 'u', 'e'] cs
      else if c = 'f' then word ['a', 'l', 's', 'e'] cs
      else if c = '"' then skipString cs
      else if c = '-' then skipNumber cs
      else if c.isDigit then skipNumber (c :: cs)
      else if c = '[' then skipItemsWithin (skipWithin bound) bound true cs
      else if c = '\x7b' then skipMembersWithin (skipWithin bound) bound true cs
      else .error (.next .expectedValue (c :: cs)) := by
  rw [skipWithin, skipBlanks_cons hc]

theorem skipWithin_of_wellFormed {t : List Char} (ht : WellFormed t) :
    ∀ {k : Char} {bound rest : List Char}, t.length ≤ bound.length + 1 → EndsNumber rest →
      skipWithin (k :: bound) (t ++ rest) = .ok rest := by
  induction ht with
  | null =>
      intro k bound rest _ _
      rw [List.cons_append, skipWithin_cons rfl]
      exact word_eq_ok_iff.mpr rfl
  | true =>
      intro k bound rest _ _
      rw [List.cons_append, skipWithin_cons rfl]
      exact word_eq_ok_iff.mpr rfl
  | false =>
      intro k bound rest _ _
      rw [List.cons_append, skipWithin_cons rfl]
      exact word_eq_ok_iff.mpr rfl
  | positive h =>
      intro k bound rest _ hrest
      have hnumber := skipNumber_append h hrest
      obtain ⟨c, cs, rfl, hc⟩ := h.starts
      have hne : ∀ d : Char, d.isDigit = false → c ≠ d := by
        rintro d hd rfl
        rw [hd] at hc
        cases hc
      rw [List.cons_append, skipWithin_cons (Digit.not_blank hc), if_neg (hne _ rfl),
        if_neg (hne _ rfl), if_neg (hne _ rfl), if_neg (hne _ rfl), if_neg (hne _ rfl), if_pos hc]
      exact hnumber
  | negative h =>
      intro k bound rest _ hrest
      rw [List.cons_append, skipWithin_cons rfl]
      exact skipNumber_append h hrest
  | @string w hw =>
      intro k bound rest _ _
      rw [List.cons_append, List.cons_append, skipWithin_cons rfl]
      exact skipString_eq_ok_iff.mpr ⟨w, hw, by rw [List.append_assoc]; rfl⟩
  | @array t texts hitems htexts ih =>
      intro k bound rest hbound _
      obtain ⟨inner, rfl, hinner⟩ := hitems
      -- The bracket has taken a character of the bound, and so much less is left to pass over.
      have hbound : inner.length ≤ bound.length := Nat.le_of_succ_le_succ hbound
      rw [List.cons_append, skipWithin_cons rfl]
      show skipItemsWithin (skipWithin bound) bound true (inner ++ rest) = .ok rest
      rw [skipItemsWithin_eq]
      refine passWithin_append (.inl rfl) skipItem?_separator hinner
        (fun text h => (htexts text h).starts) (fun text h b left hb hleft => ?_) rest hbound
      have hlength := (hinner.length_le text h).trans hbound
      obtain ⟨k, bound, rfl⟩ :=
        List.exists_cons_of_length_pos ((htexts text h).starts.length_pos.trans_le hlength)
      rw [List.append_assoc, skipWithin_blanks hb]
      exact ih text h hlength hleft
  | @object t texts members hitems hmembers hnames hvalues ih =>
      intro k bound rest hbound _
      obtain ⟨inner, rfl, hinner⟩ := hitems
      have hbound : inner.length ≤ bound.length := Nat.le_of_succ_le_succ hbound
      rw [List.cons_append, skipWithin_cons rfl]
      show skipMembersWithin (skipWithin bound) bound true (inner ++ rest) = .ok rest
      rw [skipMembersWithin_eq]
      refine passWithin_append (.inr rfl) skipMember?_separator hinner
        (fun text h => ?_) (fun text h b left hb hleft => ?_) rest hbound
      · obtain ⟨m, -, hm⟩ := exists_of_forall₂ hmembers text h
        exact hm.starts
      · obtain ⟨m, hm, htext⟩ := exists_of_forall₂ hmembers text h
        have hlength := (hinner.length_le text h).trans hbound
        obtain ⟨k, bound, rfl⟩ :=
          List.exists_cons_of_length_pos (htext.starts.length_pos.trans_le hlength)
        cases htext with
        | @mk w b' b'' value hb' hb'' =>
            have hname : skipName (b ++ ('"' :: w ++ '"' :: b' ++ ':' :: (b'' ++ (value ++ left))))
                = .ok (b'' ++ (value ++ left)) :=
              skipName_eq_ok_iff.mpr ⟨b, w, b', hb, hnames _ hm, hb', rfl⟩
            have hvalue : skipWithin (k :: bound) (value ++ left) = .ok left := by
              refine ih _ hm (le_trans ?_ hlength) hleft
              simp only [List.length_append, List.length_cons]
              omega
            simp only [List.append_assoc, List.cons_append] at hname ⊢
            rw [hname, ok_bind, skipWithin_blanks hb'', hvalue]

theorem skip_append {b t rest : List Char} (hb : Blank b) (ht : WellFormed t)
    (hrest : EndsNumber rest) : skip (b ++ t ++ rest) = .ok rest := by
  have hlength : t.length ≤ (b ++ t ++ rest).length := by
    simp only [List.length_append]
    omega
  obtain ⟨k, bound, hbound⟩ :=
    List.exists_cons_of_length_pos (ht.starts.length_pos.trans_le hlength)
  rw [hbound] at hlength
  calc skip (b ++ t ++ rest)
      = skipWithin (k :: bound) (b ++ (t ++ rest)) := by
        rw [skip, ← List.append_assoc, ← hbound]
    _ = skipWithin (k :: bound) (t ++ rest) := skipWithin_blanks hb ..
    _ = .ok rest := skipWithin_of_wellFormed ht hlength hrest

end StubHttp.Json
