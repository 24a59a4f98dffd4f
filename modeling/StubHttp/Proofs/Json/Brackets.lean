import StubHttp.Json.Skip
import StubHttp.Proofs.Json.Numbers
import StubHttp.Proofs.Json.Strings

/-!
# Brackets against the grammar

What stands between the items of a list or an object, and the loop over them.

Three readers look for the next item, `item?`, `skipItem?` and `skipMember?`.
They differ in what they refuse and in how far they go past a comma, but all
of them tell the end of the items from the next of them in the same way
(`Separator`). `member?` takes the quote of the name along and is told on its
own (`member?_eq_some_iff`).

Passing over a list and passing over an object are the same loop
(`passWithin`) with another reader in each place. It takes as many items as
the text has and stops at the bracket (`passWithin_sound`,
`passWithin_append`).
-/

namespace StubHttp.Json

/-! ## Beginnings and ends of items -/

/-- A text that begins as an item does: not with a blank, and not with a bracket that closes. -/
def Starts (t : List Char) : Prop :=
  ∃ c cs, t = c :: cs ∧ isBlank c = false ∧ c ≠ ']' ∧ c ≠ '\x7d'

theorem Starts.length_pos {t : List Char} (h : Starts t) : 0 < t.length := by
  obtain ⟨c, cs, rfl, -⟩ := h
  exact Nat.succ_pos _

theorem Starts.append {t : List Char} (h : Starts t) (cs : List Char) : Starts (t ++ cs) := by
  obtain ⟨c, left, rfl, hc⟩ := h
  exact ⟨c, left ++ cs, rfl, hc⟩

theorem skipBlanks_append_cons {b : List Char} {c : Char} (hb : Blank b) (hc : isBlank c = false)
    (cs : List Char) : skipBlanks (b ++ c :: cs) = c :: cs :=
  skipBlanks_eq_cons_iff.mpr ⟨hc, b, hb, rfl⟩

theorem Lead.append {first : Bool} {lead b : List Char} (h : Lead first lead) (hb : Blank b) :
    Lead first (lead ++ b) := by
  cases h with
  | first h => exact .first (h.append hb)
  | later h h' =>
      rw [List.append_assoc, List.cons_append]
      exact .later h (h'.append hb)

/-- The bracket of a list or of an object. -/
def IsClose (c : Char) : Prop :=
  c = ']' ∨ c = '\x7d'

theorem IsClose.not_blank {close : Char} (h : IsClose close) : isBlank close = false := by
  rcases h with rfl | rfl <;> rfl

theorem Starts.ne_close {c close : Char} (hc : c ≠ ']' ∧ c ≠ '\x7d') (h : IsClose close) :
    c ≠ close := by
  rcases h with rfl | rfl
  · exact hc.1
  · exact hc.2

theorem Blank.endsNumber {b rest : List Char} (hb : Blank b) (hrest : EndsNumber rest) :
    EndsNumber (b ++ rest) := by
  cases b with
  | nil => exact hrest
  | cons c b =>
      rintro d ⟨⟩
      rcases hb c (List.mem_cons_self ..) with rfl | rfl | rfl | rfl <;> decide

theorem IsClose.endsNumber {close : Char} (h : IsClose close) (rest : List Char) :
    EndsNumber (close :: rest) := by
  rintro d ⟨⟩
  rcases h with rfl | rfl <;> decide

/-- No number goes on into what follows an item. -/
theorem Items.endsNumber {close : Char} {t : List Char} {texts : List (List Char)}
    (hclose : IsClose close) (h : Items close false t texts) (rest : List Char) :
    EndsNumber (t ++ rest) := by
  cases h with
  | close hb =>
      rw [List.append_assoc]
      exact hb.endsNumber (hclose.endsNumber rest)
  | item hlead _ =>
      cases hlead with
      | later hb hb' =>
          simp only [List.append_assoc, List.cons_append]
          refine hb.endsNumber ?_
          rintro d ⟨⟩
          decide

theorem Items.length_pos {close : Char} {first : Bool} {t : List Char} {texts : List (List Char)}
    (h : Items close first t texts) : 0 < t.length := by
  induction h with
  | close _ =>
      rw [List.length_append, List.length_singleton]
      exact Nat.succ_pos _
  | item _ _ ih =>
      rw [List.length_append]
      exact Nat.add_pos_right _ ih

theorem Items.length_le {close : Char} {first : Bool} {t : List Char} {texts : List (List Char)}
    (h : Items close first t texts) : ∀ text ∈ texts, text.length ≤ t.length := by
  induction h with
  | close => exact nofun
  | item _ _ ih =>
      intro text htext
      simp only [List.length_append]
      rcases List.mem_cons.mp htext with rfl | htext
      · omega
      · have hle := ih text htext
        omega

/-! ## Separators -/

/-- What a reader of separators does: it tells the bracket from the next item, and leaves at most
blanks in front of the item. -/
structure Separator (close : Char) (next : Bool → List Char → Attempt (Option (List Char))) :
    Prop where
  none_iff {first : Bool} {cs : List Char} :
    next first cs = .ok none ↔ ∃ b rest, Blank b ∧ cs = b ++ close :: rest
  sound {first : Bool} {cs text : List Char} :
    next first cs = .ok (some text) → ∃ lead, Lead first lead ∧ cs = lead ++ text
  complete {first : Bool} {lead text : List Char} :
    Lead first lead → Starts text →
      ∃ b, Blank b ∧ next first (lead ++ text) = .ok (some (b ++ text))

theorem item?_separator : Separator ']' item? where
  none_iff {first cs} := by
    constructor
    · intro h
      unfold item? at h
      split at h
      · cases h
      · next c rest heq =>
        obtain ⟨-, b, hb, rfl⟩ := skipBlanks_eq_cons_iff.mp heq
        split at h
        · next hc => exact ⟨b, rest, hb, by rw [hc]⟩
        split at h
        · cases h
        split at h
        · split at h
          · cases h
          · split at h <;> cases h
        · cases h
    · rintro ⟨b, rest, hb, rfl⟩
      rw [item?, skipBlanks_append_cons hb rfl]
      rfl
  sound {first cs text} h := by
    unfold item? at h
    split at h
    · cases h
    · next c rest heq =>
      obtain ⟨-, b, hb, rfl⟩ := skipBlanks_eq_cons_iff.mp heq
      split at h
      · cases h
      split at h
      · next hfirst =>
        cases h
        subst hfirst
        exact ⟨b, .first hb, rfl⟩
      split at h
      · next hfirst hcomma =>
        split at h
        · cases h
        · next d left heq' =>
          obtain ⟨-, b', hb', rfl⟩ := skipBlanks_eq_cons_iff.mp heq'
          split at h
          · cases h
          · cases h
            obtain rfl : first = false := by simpa using hfirst
            exact ⟨b ++ ',' :: b', .later hb hb', by rw [hcomma]; simp⟩
      · cases h
  complete {first lead text} hlead htext := by
    obtain ⟨c, cs, rfl, hblank, hc, -⟩ := htext
    refine ⟨[], .nil, ?_⟩
    cases hlead with
    | first hb =>
        rw [item?, skipBlanks_append_cons hb hblank]
        dsimp only
        rw [if_neg hc]
        rfl
    | later hb hb' =>
        rw [item?, List.append_assoc, List.cons_append, skipBlanks_append_cons hb rfl]
        dsimp only
        rw [if_neg (by decide), if_neg (by decide), if_pos rfl, skipBlanks_append_cons hb' hblank]
        dsimp only
        rw [if_neg hc]
        rfl

/-- The separators of whatever is passed over, told apart by the bracket alone. -/
def skipNext? (close : Char) (atEnd expected : Problem) (first : Bool) (cs : List Char) :
    Attempt (Option (List Char)) :=
  match skipBlanks cs with
  | [] => .error (.here atEnd [])
  | c :: rest =>
    if c = close then .ok none
    else if first then .ok (some (c :: rest))
    else if c = ',' then .ok (some rest)
    else .error (.next expected (c :: rest))

theorem skipNext?_separator {close : Char} (hclose : IsClose close) (atEnd expected : Problem) :
    Separator close (skipNext? close atEnd expected) where
  none_iff {first cs} := by
    constructor
    · intro h
      unfold skipNext? at h
      split at h
      · cases h
      · next c rest heq =>
        obtain ⟨-, b, hb, rfl⟩ := skipBlanks_eq_cons_iff.mp heq
        split_ifs at h with hc
        · exact ⟨b, rest, hb, by rw [hc]⟩
        all_goals cases h
    · rintro ⟨b, rest, hb, rfl⟩
      rw [skipNext?, skipBlanks_append_cons hb hclose.not_blank]
      dsimp only
      rw [if_pos rfl]
  sound {first cs text} h := by
    unfold skipNext? at h
    split at h
    · cases h
    · next c rest heq =>
      obtain ⟨-, b, hb, rfl⟩ := skipBlanks_eq_cons_iff.mp heq
      split_ifs at h with hc hfirst hcomma
      · cases h
      · cases h
        subst hfirst
        exact ⟨b, .first hb, rfl⟩
      · cases h
        obtain rfl : first = false := by simpa using hfirst
        exact ⟨b ++ [','], .later hb .nil, by rw [hcomma]; simp⟩
  complete {first lead text} hlead htext := by
    obtain ⟨c, cs, rfl, hblank, hc⟩ := htext
    have hc : c ≠ close := Starts.ne_close hc hclose
    have hcomma : ',' ≠ close := by rcases hclose with rfl | rfl <;> decide
    cases hlead with
    | first hb =>
        refine ⟨[], .nil, ?_⟩
        rw [skipNext?, skipBlanks_append_cons hb hblank]
        dsimp only
        rw [if_neg hc]
        rfl
    | @later b b' hb hb' =>
        refine ⟨b', hb', ?_⟩
        rw [skipNext?, List.append_assoc, List.cons_append, skipBlanks_append_cons hb rfl]
        dsimp only
        rw [if_neg hcomma]
        rfl

theorem skipItem?_separator : Separator ']' skipItem? :=
  skipNext?_separator (.inl rfl) .endInList .expectedListEnd

theorem skipMember?_separator : Separator '\x7d' skipMember? :=
  skipNext?_separator (.inr rfl) .endInObject .expectedObjectEnd

theorem afterClose_append {b : List Char} {close : Char} (hb : Blank b) (hclose : IsClose close)
    (rest : List Char) : afterClose (b ++ close :: rest) = rest := by
  rw [afterClose, skipBlanks_append_cons hb hclose.not_blank]
  rfl

/-- Where the items end, the bracket is what `afterClose` leaves out. -/
theorem Separator.none_sound {close : Char} {next : Bool → List Char → Attempt (Option (List Char))}
    (h : Separator close next) (hclose : IsClose close) {first : Bool} {cs : List Char}
    (hnone : next first cs = .ok none) : ∃ b, Blank b ∧ cs = b ++ [close] ++ afterClose cs := by
  obtain ⟨b, rest, hb, rfl⟩ := h.none_iff.mp hnone
  exact ⟨b, hb, by rw [afterClose_append hb hclose, List.append_assoc]; rfl⟩

/-! ## Names of members -/

theorem colon_eq_ok_iff {cs rest : List Char} :
    colon cs = .ok rest ↔ ∃ b, Blank b ∧ cs = b ++ ':' :: rest := by
  constructor
  · intro h
    unfold colon at h
    split at h
    · cases h
    · next c left heq =>
      obtain ⟨-, b, hb, rfl⟩ := skipBlanks_eq_cons_iff.mp heq
      split_ifs at h with hc
      cases h
      exact ⟨b, hb, by rw [hc]⟩
  · rintro ⟨b, hb, rfl⟩
    rw [colon, skipBlanks_append_cons hb rfl]
    rfl

theorem skipName_eq_ok_iff {cs rest : List Char} :
    skipName cs = .ok rest ↔ ∃ b w b', Blank b ∧ WellEscaped w ∧ Blank b' ∧
      cs = b ++ ('"' :: w ++ '"' :: b' ++ ':' :: rest) := by
  constructor
  · intro h
    unfold skipName at h
    split at h
    · cases h
    · next c left heq =>
      obtain ⟨-, b, hb, rfl⟩ := skipBlanks_eq_cons_iff.mp heq
      split_ifs at h with hc
      obtain ⟨left', hstring, hcolon⟩ := bind_eq_ok_iff.mp h
      obtain ⟨w, hw, rfl⟩ := skipString_eq_ok_iff.mp hstring
      obtain ⟨b', hb', rfl⟩ := colon_eq_ok_iff.mp hcolon
      exact ⟨b, w, b', hb, hw, hb', by rw [hc]; simp⟩
  · rintro ⟨b, w, b', hb, hw, hb', rfl⟩
    have hstring : skipString (w ++ '"' :: (b' ++ ':' :: rest)) = .ok (b' ++ ':' :: rest) :=
      skipString_eq_ok_iff.mpr ⟨w, hw, rfl⟩
    simp only [List.cons_append, List.append_assoc]
    rw [skipName, skipBlanks_append_cons hb rfl]
    dsimp only
    rw [if_pos rfl, hstring]
    exact colon_eq_ok_iff.mpr ⟨b', hb', rfl⟩

theorem member?_eq_none_iff {first : Bool} {cs : List Char} :
    member? first cs = .ok none ↔ ∃ b rest, Blank b ∧ cs = b ++ '\x7d' :: rest := by
  constructor
  · intro h
    unfold member? at h
    split at h
    · cases h
    · next c rest heq =>
      obtain ⟨-, b, hb, rfl⟩ := skipBlanks_eq_cons_iff.mp heq
      split at h
      · next hc => exact ⟨b, rest, hb, by rw [hc]⟩
      split at h
      · split at h <;> cases h
      split at h
      · split at h
        · cases h
        · split_ifs at h
          cases h
      · cases h
  · rintro ⟨b, rest, hb, rfl⟩
    rw [member?, skipBlanks_append_cons hb rfl]
    rfl

theorem member?_eq_some_iff {first : Bool} {cs name : List Char} :
    member? first cs = .ok (some name) ↔ ∃ lead, Lead first lead ∧ cs = lead ++ '"' :: name := by
  constructor
  · intro h
    unfold member? at h
    split at h
    · cases h
    · next c rest heq =>
      obtain ⟨-, b, hb, rfl⟩ := skipBlanks_eq_cons_iff.mp heq
      split at h
      · cases h
      split at h
      · next hfirst =>
        split_ifs at h with hc
        cases h
        subst hfirst
        exact ⟨b, .first hb, by rw [hc]⟩
      split at h
      · next hfirst hcomma =>
        split at h
        · cases h
        · next d left heq' =>
          obtain ⟨-, b', hb', rfl⟩ := skipBlanks_eq_cons_iff.mp heq'
          split_ifs at h with hd
          cases h
          obtain rfl : first = false := by simpa using hfirst
          exact ⟨b ++ ',' :: b', .later hb hb', by rw [hcomma, hd]; simp⟩
      · cases h
  · rintro ⟨lead, hlead, rfl⟩
    cases hlead with
    | first hb =>
        rw [member?, skipBlanks_append_cons hb rfl]
        rfl
    | later hb hb' =>
        rw [member?, List.append_assoc, List.cons_append, skipBlanks_append_cons hb rfl]
        dsimp only
        rw [if_neg (by decide), if_neg (by decide), if_pos rfl, skipBlanks_append_cons hb' rfl]
        rfl

/-! ## Passing over items -/

/-- Passes over items up to their bracket, whatever the items are and whatever separates them. -/
def passWithin (atEnd : Problem) (next : Bool → List Char → Attempt (Option (List Char)))
    (one : List Char → Attempt (List Char)) : List Char → Bool → List Char → Attempt (List Char)
  | [], _, _ => .error (.here atEnd [])
  | _ :: bound, first, cs => do
    match ← next first cs with
    | none => return afterClose cs
    | some item => passWithin atEnd next one bound false (← one item)

theorem skipItemsWithin_eq (skipOne : List Char → Attempt (List Char)) :
    ∀ (bound : List Char) (first : Bool) (cs : List Char),
      skipItemsWithin skipOne bound first cs
        = passWithin .endInList skipItem? skipOne bound first cs
  | [], _, _ => rfl
  | _ :: bound, first, cs => by
      rw [skipItemsWithin, passWithin]
      refine bind_congr fun item => ?_
      cases item with
      | none => rfl
      | some item => exact bind_congr fun left => skipItemsWithin_eq skipOne bound false left

theorem skipMembersWithin_eq (skipOne : List Char → Attempt (List Char)) :
    ∀ (bound : List Char) (first : Bool) (cs : List Char),
      skipMembersWithin skipOne bound first cs
        = passWithin .endInObject skipMember? (fun m => skipName m >>= skipOne) bound first cs
  | [], _, _ => rfl
  | _ :: bound, first, cs => by
      rw [skipMembersWithin, passWithin]
      refine bind_congr fun member => ?_
      cases member with
      | none => rfl
      | some member =>
          refine Eq.trans ?_ (bind_assoc ..).symm
          exact bind_congr fun value => bind_congr fun left =>
            skipMembersWithin_eq skipOne bound false left

section
variable {close : Char} {atEnd : Problem} {next : Bool → List Char → Attempt (Option (List Char))}
  {one : List Char → Attempt (List Char)} {P : List Char → Prop}

theorem passWithin_sound (hclose : IsClose close) (hnext : Separator close next)
    (hone : ∀ {cs rest}, one cs = .ok rest → ∃ b text, Blank b ∧ P text ∧ cs = b ++ text ++ rest) :
    ∀ {bound : List Char} {first : Bool} {cs rest : List Char},
      passWithin atEnd next one bound first cs = .ok rest →
        ∃ t texts, Items close first t texts ∧ (∀ text ∈ texts, P text) ∧ cs = t ++ rest
  | [], _, _, _, h => by cases h
  | _ :: bound, first, cs, rest, h => by
      rw [passWithin] at h
      obtain ⟨item, hitem, h⟩ := bind_eq_ok_iff.mp h
      cases item with
      | none =>
          cases h
          obtain ⟨b, hb, hcs⟩ := hnext.none_sound hclose hitem
          exact ⟨b ++ [close], [], .close hb, nofun, hcs⟩
      | some item =>
          obtain ⟨left, hpassed, hleft⟩ := bind_eq_ok_iff.mp h
          obtain ⟨lead, hlead, rfl⟩ := hnext.sound hitem
          obtain ⟨b, text, hb, htext, rfl⟩ := hone hpassed
          obtain ⟨t, texts, ht, htexts, rfl⟩ := passWithin_sound hclose hnext hone hleft
          refine ⟨lead ++ b ++ text ++ t, text :: texts, .item (hlead.append hb) ht, ?_, by simp⟩
          exact List.forall_mem_cons.mpr ⟨htext, htexts⟩

theorem passWithin_append (hclose : IsClose close) (hnext : Separator close next)
    {first : Bool} {t : List Char} {texts : List (List Char)} (ht : Items close first t texts)
    (hstarts : ∀ text ∈ texts, Starts text)
    (hone : ∀ text ∈ texts, ∀ b rest, Blank b → EndsNumber rest →
      one (b ++ text ++ rest) = .ok rest) :
    ∀ {bound : List Char} (rest : List Char), t.length ≤ bound.length →
      passWithin atEnd next one bound first (t ++ rest) = .ok rest := by
  induction ht with
  | @close first b hb =>
      intro bound rest hbound
      have hitems : Items close first (b ++ [close]) [] := .close hb
      obtain ⟨_, bound, rfl⟩ := List.exists_cons_of_length_pos (hitems.length_pos.trans_le hbound)
      have hend : next first (b ++ close :: rest) = .ok none :=
        hnext.none_iff.mpr ⟨b, rest, hb, rfl⟩
      rw [List.append_assoc, List.singleton_append, passWithin, hend, ok_bind]
      exact congrArg _ (afterClose_append hb hclose rest)
  | @item first lead text left texts hlead hleft ih =>
      intro bound rest hbound
      obtain ⟨hstart, hstarts⟩ := List.forall_mem_cons.mp hstarts
      obtain ⟨hpass, hone⟩ := List.forall_mem_cons.mp hone
      obtain ⟨_, bound, rfl⟩ :=
        List.exists_cons_of_length_pos ((Items.item hlead hleft).length_pos.trans_le hbound)
      have hpos := hstart.length_pos
      simp only [List.length_append, List.length_cons] at hbound
      -- The reader of separators may have left blanks `b` in front of the item.
      obtain ⟨b, hb, hitem⟩ := hnext.complete hlead (hstart.append (left ++ rest))
      have hends : EndsNumber (left ++ rest) := hleft.endsNumber hclose rest
      have hpassed : one (b ++ (text ++ (left ++ rest))) = .ok (left ++ rest) := by
        rw [← List.append_assoc]
        exact hpass b (left ++ rest) hb hends
      rw [List.append_assoc, List.append_assoc, passWithin, hitem, ok_bind]
      dsimp only
      rw [hpassed, ok_bind]
      exact ih hstarts hone rest (by omega)

end

end StubHttp.Json
