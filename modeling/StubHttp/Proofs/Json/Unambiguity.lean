import StubHttp.Proofs.Json.Skip

/-!
# One reading

A text can be read by the grammar in one way only. The readers give this away:
what `skip` leaves behind a value is told by the text alone, so two values at
the beginning of one text are the same, and so are two members. Of an item in
brackets no more is asked than that it ends in one place (`Delimited`), and
then the items are told by the text, too (`Bracketed.unique`).
-/

namespace StubHttp.Json

/-- Texts that end in one place, if no number goes on into what follows them. -/
def Delimited (P : List Char → Prop) : Prop :=
  ∀ ⦃t t' rest rest' : List Char⦄, P t → P t' → EndsNumber rest → EndsNumber rest' →
    t ++ rest = t' ++ rest' → t = t' ∧ rest = rest'

/-- Texts end where a reader stops that goes past each of them. -/
theorem delimited_of_reader {P : List Char → Prop} (read : List Char → Attempt (List Char))
    (h : ∀ {t rest : List Char}, P t → EndsNumber rest → read (t ++ rest) = .ok rest) :
    Delimited P := by
  intro t t' rest rest' ht ht' hrest hrest' heq
  have hread := h ht hrest
  rw [heq, h ht' hrest'] at hread
  obtain rfl := Except.ok.inj hread
  exact ⟨List.append_cancel_right heq, rfl⟩

theorem delimited_wellFormed : Delimited WellFormed :=
  delimited_of_reader skip fun ht hrest => skip_append .nil ht hrest

/-! ## Members -/

/-- The text of a member whose name is well escaped and whose value is well formed. -/
def WellFormedMember (t : List Char) (m : List Char × List Char) : Prop :=
  MemberText t m ∧ WellEscaped m.1 ∧ WellFormed m.2

theorem delimited_wellFormedMember : Delimited fun t => ∃ m, WellFormedMember t m := by
  have hread : ∀ {t rest : List Char}, (∃ m, WellFormedMember t m) → EndsNumber rest →
      (skipName (t ++ rest) >>= skip) = .ok rest := by
    rintro _ rest ⟨m, hm, hname, hvalue⟩ hrest
    cases hm with
    | @mk w b b' value hb hb' =>
        have hskip : skipName ('"' :: w ++ '"' :: b ++ ':' :: (b' ++ value ++ rest))
            = .ok (b' ++ value ++ rest) :=
          skipName_eq_ok_iff.mpr ⟨[], w, b, .nil, hname, hb, rfl⟩
        simp only [List.append_assoc, List.cons_append] at hskip ⊢
        rw [hskip, ok_bind, ← List.append_assoc]
        exact skip_append hb' hvalue hrest
  exact delimited_of_reader (fun cs => skipName cs >>= skip) hread

/-- What stands between the quotes of a literal is told by the text. -/
theorem WellEscaped.unique {w w' rest rest' : List Char} (h : WellEscaped w)
    (h' : WellEscaped w') (heq : w ++ '"' :: rest = w' ++ '"' :: rest') :
    w = w' ∧ rest = rest' := by
  have hskip : skipString (w ++ '"' :: rest) = .ok rest := skipString_eq_ok_iff.mpr ⟨w, h, rfl⟩
  rw [heq, skipString_eq_ok_iff.mpr ⟨w', h', rfl⟩] at hskip
  obtain rfl := Except.ok.inj hskip
  exact ⟨List.append_cancel_right heq, rfl⟩

/-- So are texts behind blanks. -/
theorem Starts.unique {b b' t t' : List Char} (h : Starts t) (h' : Starts t') (hb : Blank b)
    (hb' : Blank b') (heq : b ++ t = b' ++ t') : t = t' := by
  obtain ⟨c, cs, rfl, hc, -⟩ := h
  obtain ⟨c', cs', rfl, hc', -⟩ := h'
  rw [← skipBlanks_append_cons hb hc cs, heq, skipBlanks_append_cons hb' hc']

theorem WellFormedMember.unique {t : List Char} {m m' : List Char × List Char}
    (h : WellFormedMember t m) (h' : WellFormedMember t m') : m = m' := by
  obtain ⟨hm, hname, hvalue⟩ := h
  obtain ⟨hm', hname', hvalue'⟩ := h'
  obtain ⟨w, value⟩ := m
  obtain ⟨w', value'⟩ := m'
  generalize ht : t = t' at hm'
  cases hm with
  | @mk _ b c _ hb hc =>
      cases hm' with
      | @mk _ b' c' _ hb' hc' =>
          simp only [List.append_assoc, List.cons_append, List.cons.injEq, true_and] at ht
          obtain ⟨rfl, hbehind⟩ := hname.unique hname' ht
          have hcolon : colon (b ++ ':' :: (c ++ value)) = .ok (c ++ value) :=
            colon_eq_ok_iff.mpr ⟨b, hb, rfl⟩
          rw [hbehind, colon_eq_ok_iff.mpr ⟨b', hb', rfl⟩] at hcolon
          have hvalues : value' = value :=
            hvalue'.starts.unique hvalue.starts hc' hc (Except.ok.inj hcolon)
          rw [hvalues]

theorem eq_of_wellFormedMembers {texts : List (List Char)} {ms ms' : List (List Char × List Char)}
    (h : List.Forall₂ WellFormedMember texts ms) (h' : List.Forall₂ WellFormedMember texts ms') :
    ms = ms' := by
  induction h generalizing ms' with
  | nil =>
      cases h'
      rfl
  | cons hm _ ih =>
      cases h' with
      | cons hm' hrest' => rw [hm.unique hm', ih hrest']

/-! ## Items -/

/-- What stands in brackets falls into items in one way. -/
theorem Items.unique {close : Char} {P : List Char → Prop} (hclose : IsClose close)
    (hP : Delimited P) (hstarts : ∀ {t : List Char}, P t → Starts t) {first : Bool}
    {t : List Char} {texts : List (List Char)} (h : Items close first t texts) :
    ∀ {texts' : List (List Char)}, Items close first t texts' → (∀ text ∈ texts, P text) →
      (∀ text ∈ texts', P text) → texts = texts' := by
  have hnext : Separator close (skipNext? close .endInList .expectedListEnd) :=
    skipNext?_separator hclose _ _
  -- An item does not begin where the bracket stands.
  have hends : ∀ {first : Bool} {b lead text rest : List Char}, Blank b → Lead first lead →
      P text → b ++ [close] = lead ++ text ++ rest → False := by
    intro first b lead text rest hb hlead htext heq
    have hnone : skipNext? close .endInList .expectedListEnd first (b ++ [close]) = .ok none :=
      hnext.none_iff.mpr ⟨b, [], hb, rfl⟩
    obtain ⟨b', -, hsome⟩ := hnext.complete hlead ((hstarts htext).append rest)
    rw [heq, List.append_assoc, hsome] at hnone
    cases hnone
  induction h with
  | @close first b hb =>
      intro texts' h' _ hall'
      generalize ht : b ++ [close] = t at h'
      cases h' with
      | close => rfl
      | item hlead' _ =>
          exact absurd ht (hends hb hlead' (hall' _ List.mem_cons_self))
  | @item first lead text rest texts hlead hrest ih =>
      intro texts' h' hall hall'
      obtain ⟨htext, hall⟩ := List.forall_mem_cons.mp hall
      generalize ht : lead ++ text ++ rest = t at h'
      cases h' with
      | close hb' => exact absurd ht.symm (hends hb' hlead htext)
      | @item _ lead' text' rest' texts' hlead' hrest' =>
          obtain ⟨htext', hlater⟩ := List.forall_mem_cons.mp hall'
          have hstart := (hstarts htext).append rest
          have hstart' := (hstarts htext').append rest'
          obtain ⟨b, hb, hitem⟩ := hnext.complete hlead hstart
          obtain ⟨b', hb', hitem'⟩ := hnext.complete hlead' hstart'
          rw [List.append_assoc, List.append_assoc] at ht
          rw [ht, hitem'] at hitem
          have heq : text ++ rest = text' ++ rest' :=
            hstart.unique hstart' hb hb' (Option.some.inj (Except.ok.inj hitem)).symm
          have hafter : EndsNumber rest := by simpa using hrest.endsNumber hclose []
          have hafter' : EndsNumber rest' := by simpa using hrest'.endsNumber hclose []
          obtain ⟨rfl, rfl⟩ := hP htext htext' hafter hafter' heq
          rw [ih hrest' hall hlater]

theorem Bracketed.unique {opening close : Char} {P : List Char → Prop} (hclose : IsClose close)
    (hP : Delimited P) (hstarts : ∀ {t : List Char}, P t → Starts t) {t : List Char}
    {texts texts' : List (List Char)} (h : Bracketed opening close t texts)
    (h' : Bracketed opening close t texts') (hall : ∀ text ∈ texts, P text)
    (hall' : ∀ text ∈ texts', P text) : texts = texts' := by
  obtain ⟨inner, rfl, hitems⟩ := h
  obtain ⟨inner', heq, hitems'⟩ := h'
  obtain ⟨-, rfl⟩ := List.cons.inj heq
  exact hitems.unique hclose hP hstarts hitems' hall hall'

end StubHttp.Json
