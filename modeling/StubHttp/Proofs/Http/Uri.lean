import StubHttp.Http.Uri
import StubHttp.Proofs.Outcome

/-!
# What can be a target

A URI that is accepted has one of four forms (`Uri.form_of_parse`), and each
fixes where the target comes from: it is a star, the empty text, or what
`readPathAndQuery` has let through. So every character of a target is a star, a
slash, or a character of a path or a query; none of them is a blank or a
control character (`lt_of_mem_target`). In particular a target stands on one
line.
-/

namespace StubHttp.Http

/-! ## Characters -/

/-- The numbers of the characters of a path. -/
abbrev PathCode (n : Nat) : Prop :=
  n = 0x21 ∨ n = 0x22 ∨ (0x24 ≤ n ∧ n ≤ 0x3B) ∨ n = 0x3D ∨ (0x40 ≤ n ∧ n ≤ 0x5F)
    ∨ (0x61 ≤ n ∧ n ≤ 0x7E) ∨ 0x80 ≤ n

/-- The numbers of the characters of a query. -/
abbrev QueryCode (n : Nat) : Prop :=
  n = 0x21 ∨ (0x24 ≤ n ∧ n ≤ 0x3B) ∨ n = 0x3D ∨ (0x3F ≤ n ∧ n ≤ 0x7E) ∨ 0x80 ≤ n

theorem isPathChar_iff {c : Char} : isPathChar c = true ↔ PathCode c.toNat := by
  simp only [isPathChar, inRange, Bool.or_eq_true, Bool.and_eq_true, decide_eq_true_eq,
    beq_iff_eq]
  omega

theorem isQueryChar_iff {c : Char} : isQueryChar c = true ↔ QueryCode c.toNat := by
  simp only [isQueryChar, inRange, Bool.or_eq_true, Bool.and_eq_true, decide_eq_true_eq,
    beq_iff_eq]
  omega

theorem lt_of_isPathChar {c : Char} (h : isPathChar c = true) : 0x20 < c.toNat := by
  rw [isPathChar_iff] at h
  omega

theorem lt_of_isQueryChar {c : Char} (h : isQueryChar c = true) : 0x20 < c.toNat := by
  rw [isQueryChar_iff] at h
  omega

/-- What is let through as path and query are the characters in front of the fragment. -/
theorem readPathAndQuery_eq_ok_iff {cs : List Char} {t : String} :
    readPathAndQuery cs = .ok t ↔
      ((cs.takeWhile (· ≠ '#')).takeWhile (· ≠ '?')).all isPathChar = true ∧
      ((cs.takeWhile (· ≠ '#')).dropWhile (· ≠ '?')).all isQueryChar = true ∧
      t = if (cs.takeWhile (· ≠ '#')).isEmpty then "/"
        else String.ofList (cs.takeWhile (· ≠ '#')) := by
  simp only [readPathAndQuery, Bool.and_eq_true]
  constructor
  · intro h
    split at h
    · next hall => exact ⟨hall.1, hall.2, (Except.ok.inj h).symm⟩
    · cases h
  · rintro ⟨hpath, hquery, rfl⟩
    rw [if_pos ⟨hpath, hquery⟩]

theorem lt_of_mem_readPathAndQuery {cs : List Char} {t : String} (h : readPathAndQuery cs = .ok t)
    {c : Char} (hc : c ∈ t.toList) : 0x20 < c.toNat := by
  obtain ⟨hpath, hquery, rfl⟩ := readPathAndQuery_eq_ok_iff.mp h
  split at hc
  · obtain rfl : c = '/' := by simpa using hc
    decide
  · rw [String.toList_ofList,
      ← List.takeWhile_append_dropWhile (p := (· ≠ '?')) (l := cs.takeWhile (· ≠ '#'))] at hc
    rcases List.mem_append.mp hc with hc | hc
    · exact lt_of_isPathChar (List.all_eq_true.mp hpath c hc)
    · exact lt_of_isQueryChar (List.all_eq_true.mp hquery c hc)

/-! ## Forms -/

/-- The form of an accepted URI, by the parts it has. -/
inductive Uri.Form (cs : List Char) : Uri → Prop
  | star : cs = ['*'] → Form cs ⟨none, none, some "*"⟩
  | origin {t : String} : cs.head? = some '/' → readPathAndQuery cs = .ok t →
      Form cs ⟨none, none, some t⟩
  | absolute {scheme rest name path : List Char} {t : String} :
      readScheme? cs = .ok (some (scheme, rest)) → readAuthority .start rest = .ok (name, path) →
      name ≠ [] → readPathAndQuery path = .ok t →
      Form cs ⟨some (String.ofList scheme), some (String.ofList name), some t⟩
  | authority {name : List Char} : readAuthority .start cs = .ok (name, []) →
      Form cs ⟨none, some (String.ofList name), none⟩

theorem form_of_afterScheme {cs scheme rest : List Char} {u : Uri}
    (hs : readScheme? cs = .ok (some (scheme, rest))) (h : afterScheme scheme rest = .ok u) :
    Uri.Form cs u := by
  rw [afterScheme] at h
  split at h
  · cases h
  · obtain ⟨⟨name, path⟩, hname, h⟩ := bind_eq_ok_iff.mp h
    dsimp only at h
    split at h
    · cases h
    · next hne =>
      obtain ⟨t, ht, h⟩ := bind_eq_ok_iff.mp h
      obtain rfl := pure_eq_ok_iff.mp h
      exact .absolute hs hname (by simpa using hne) ht

theorem form_of_authorityAlone {cs : List Char} {u : Uri} (h : authorityAlone cs = .ok u) :
    Uri.Form cs u := by
  obtain ⟨⟨name, rest⟩, hname, h⟩ := bind_eq_ok_iff.mp h
  cases rest with
  | nil =>
      obtain rfl := pure_eq_ok_iff.mp h
      exact .authority hname
  | cons c rest => simp at h

theorem Uri.form_of_parse {s : String} {u : Uri} (h : Uri.parse s = .ok u) :
    Uri.Form s.toList u := by
  rw [Uri.parse] at h
  split at h
  · cases h
  split at h
  · cases h
  · next hcs =>
    obtain rfl := Except.ok.inj h
    exact .star hcs
  · next cs hcs =>
    obtain ⟨t, ht, h⟩ := bind_eq_ok_iff.mp h
    obtain rfl := pure_eq_ok_iff.mp h
    exact .origin (by rw [hcs]; rfl) (hcs ▸ ht)
  · obtain ⟨found, hfound, h⟩ := bind_eq_ok_iff.mp h
    cases found with
    | none => exact form_of_authorityAlone h
    | some parts => exact form_of_afterScheme hfound h

/-! ## Targets -/

/-- No blank and no control character is part of a target. -/
theorem lt_of_mem_target {s : String} {u : Uri} (h : Uri.parse s = .ok u) {c : Char}
    (hc : c ∈ u.target.toList) : 0x20 < c.toNat := by
  cases Uri.form_of_parse h with
  | star =>
      obtain rfl : c = '*' := by simpa [Uri.target] using hc
      decide
  | origin _ ht => exact lt_of_mem_readPathAndQuery ht hc
  | absolute _ _ _ ht => exact lt_of_mem_readPathAndQuery ht hc
  | authority => simp [Uri.target] at hc

end StubHttp.Http
