import Mathlib.Data.List.TakeWhile
import StubHttp.Proofs.Http.Uri

/-!
# What stands in front of a path

An absolute URI has a scheme, the mark `://` and an authority in front of its
path and query. Two schemes are looked for first, and in any case of their
letters, but they are schemes like any other (`schemed_of_word`), so what is
read as a scheme is told by its characters and the mark alone (`Schemed`,
`readScheme?_sound`, `readScheme?_of_schemed`). An authority ends at the first
delimiter, and what is behind it is not looked at (`readAuthority_front`).

From these, what is enough for a text to be a URI: `parse_of_schemed` with a
scheme, and `parse_of_origin` with a slash in front.
-/

namespace StubHttp.Http

/-! ## Words in any case -/

theorem toLower_cases (c : Char) : c.isUpper = true ∨ c.toLower = c := by
  by_cases hupper : 'A'.val ≤ c.val ∧ c.val ≤ 'Z'.val
  · exact .inl (decide_eq_true hupper)
  · exact .inr (dif_neg hupper)

/-- Only letters are changed, and they stay letters. -/
theorem eq_of_toLower_eq {c w : Char} (hw : w.isLower = false) (h : c.toLower = w) : c = w := by
  rcases toLower_cases c with hupper | hsame
  · have hbounds : 'A'.val ≤ c.val ∧ c.val ≤ 'Z'.val := of_decide_eq_true hupper
    have hval : w.val = c.val + 32 := h ▸ congrArg Char.val (dif_pos hbounds)
    have hletter : 'a'.val ≤ w.val ∧ w.val ≤ 'z'.val := by
      rw [hval]
      simp [UInt32.le_iff_toNat_le] at hbounds ⊢
      omega
    have hlower : w.isLower = true :=
      Bool.and_eq_true_iff.mpr ⟨decide_eq_true hletter.1, decide_eq_true hletter.2⟩
    cases hw.symm.trans hlower
  · rw [← hsame, h]

theorem isSchemeChar_of_toLower {c : Char} (h : isSchemeChar c.toLower = true) :
    isSchemeChar c = true := by
  rcases toLower_cases c with hupper | hsame
  · have halpha : c.isAlpha = true := Bool.or_eq_true_iff.mpr (.inl hupper)
    simp [isSchemeChar, Char.isAlphanum, halpha]
  · rw [← hsame]
    exact h

theorem afterWord?_eq_some_iff : ∀ {word cs rest : List Char}, afterWord? word cs = some rest ↔
    ∃ front, cs = front ++ rest ∧ front.map Char.toLower = word
  | [], cs, rest => by simp [afterWord?]
  | w :: word, [], rest => by
      refine ⟨nofun, ?_⟩
      rintro ⟨front, hcs, hword⟩
      obtain ⟨rfl, -⟩ := List.append_eq_nil_iff.mp hcs.symm
      cases hword
  | w :: word, c :: cs, rest => by
      rw [afterWord?]
      constructor
      · intro h
        split at h
        · next hc =>
          obtain ⟨front, rfl, rfl⟩ := afterWord?_eq_some_iff.mp h
          exact ⟨c :: front, rfl, by rw [List.map_cons, hc]⟩
        · cases h
      · rintro ⟨front, hcs, hword⟩
        obtain ⟨c', front, rfl, rfl, rfl⟩ := List.map_eq_cons_iff.mp hword
        obtain ⟨rfl, rfl⟩ := List.cons.inj hcs
        rw [if_pos rfl]
        exact afterWord?_eq_some_iff.mpr ⟨front, rfl, rfl⟩

/-! ## Schemes -/

theorem afterWord?_mark_iff {cs rest : List Char} :
    afterWord? "://".toList cs = some rest ↔ cs = "://".toList ++ rest := by
  rw [afterWord?_eq_some_iff]
  constructor
  · rintro ⟨front, rfl, hfront⟩
    obtain ⟨c₁, front, rfl, h₁, hfront⟩ := List.map_eq_cons_iff.mp hfront
    obtain ⟨c₂, front, rfl, h₂, hfront⟩ := List.map_eq_cons_iff.mp hfront
    obtain ⟨c₃, front, rfl, h₃, hfront⟩ := List.map_eq_cons_iff.mp hfront
    obtain rfl := List.map_eq_nil_iff.mp hfront
    rw [eq_of_toLower_eq (by decide) h₁, eq_of_toLower_eq (by decide) h₂,
      eq_of_toLower_eq (by decide) h₃]
    rfl
  · rintro rfl
    exact ⟨_, rfl, rfl⟩

/-- The beginning of an absolute URI: a scheme, its mark and the rest. -/
structure Schemed (cs scheme rest : List Char) : Prop where
  parts : cs = scheme ++ ("://".toList ++ rest)
  isSchemeChar : ∀ c ∈ scheme, isSchemeChar c = true

/-- The mark begins with none of the characters of a scheme. -/
theorem Schemed.takeWhile {cs scheme rest : List Char} (h : Schemed cs scheme rest) :
    cs.takeWhile Http.isSchemeChar = scheme := by
  rw [h.parts, List.takeWhile_append_of_pos h.isSchemeChar]
  exact (congrArg (scheme ++ ·) (List.takeWhile_cons_of_neg (by decide))).trans
    (List.append_nil scheme)

theorem Schemed.unique {cs scheme rest scheme' rest' : List Char} (h : Schemed cs scheme rest)
    (h' : Schemed cs scheme' rest') : scheme = scheme' ∧ rest = rest' := by
  obtain rfl : scheme = scheme' := h.takeWhile.symm.trans h'.takeWhile
  exact ⟨rfl, List.append_cancel_left (List.append_cancel_left (h.parts.symm.trans h'.parts))⟩

theorem Schemed.drop {cs scheme rest : List Char} (h : Schemed cs scheme rest) :
    cs.drop scheme.length = "://".toList ++ rest :=
  (congrArg (List.drop _) h.parts).trans List.drop_left

/-- A known scheme is one like any other. -/
theorem schemed_of_word (word : List Char) {cs rest : List Char}
    (hword : word.all isSchemeChar = true)
    (h : afterWord? (word ++ "://".toList) cs = some rest) :
    Schemed cs (cs.take word.length) rest ∧ (cs.take word.length).length = word.length := by
  obtain ⟨front, rfl, hfront⟩ := afterWord?_eq_some_iff.mp h
  obtain ⟨scheme, mark, rfl, rfl, hmark⟩ := List.map_eq_append_iff.mp hfront
  have hrest : mark ++ rest = "://".toList ++ rest :=
    afterWord?_mark_iff.mp (afterWord?_eq_some_iff.mpr ⟨mark, rfl, hmark⟩)
  have htake : (scheme ++ mark ++ rest).take (scheme.map Char.toLower).length = scheme := by
    rw [List.length_map, List.append_assoc, List.take_left]
  rw [htake]
  refine ⟨⟨by rw [List.append_assoc, hrest], fun c hc => ?_⟩, (List.length_map _).symm⟩
  exact isSchemeChar_of_toLower (List.all_eq_true.mp hword _ (List.mem_map_of_mem hc))

theorem schemed_of_drop {cs rest : List Char}
    (h : cs.drop (cs.takeWhile isSchemeChar).length = "://".toList ++ rest) :
    Schemed cs (cs.takeWhile isSchemeChar) rest := by
  obtain ⟨after, hafter⟩ := List.takeWhile_prefix isSchemeChar (l := cs)
  have hdrop : cs.drop (cs.takeWhile isSchemeChar).length = after :=
    (congrArg (List.drop _) hafter).symm.trans List.drop_left
  refine ⟨?_, fun c hc => List.mem_takeWhile_imp hc⟩
  rw [← h, hdrop, hafter]

theorem readScheme?_sound {cs scheme rest : List Char}
    (h : readScheme? cs = .ok (some (scheme, rest))) :
    Schemed cs scheme rest ∧ scheme.length ≤ 64 := by
  rw [readScheme?] at h
  split at h
  · next hword =>
    obtain ⟨rfl, rfl⟩ := Prod.mk.inj (Option.some.inj (Except.ok.inj h))
    obtain ⟨hscheme, hlength⟩ := schemed_of_word "http".toList (by decide) hword
    exact ⟨hscheme, hlength.trans_le (by decide)⟩
  · next hword _ =>
    obtain ⟨rfl, rfl⟩ := Prod.mk.inj (Option.some.inj (Except.ok.inj h))
    obtain ⟨hscheme, hlength⟩ := schemed_of_word "https".toList (by decide) hword
    exact ⟨hscheme, hlength.trans_le (by decide)⟩
  · dsimp only at h
    split at h
    · next hword =>
      split at h
      · cases Except.ok.inj h
      · split at h
        · cases h
        · next hlength =>
          obtain ⟨rfl, rfl⟩ := Prod.mk.inj (Option.some.inj (Except.ok.inj h))
          exact ⟨schemed_of_drop (afterWord?_mark_iff.mp hword), Nat.not_lt.mp hlength⟩
    · cases Except.ok.inj h

/-- The beginning of an absolute URI is read whatever comes behind, unless nothing does. -/
theorem readScheme?_of_schemed {cs scheme rest : List Char} (h : Schemed cs scheme rest)
    (hlength : scheme.length ≤ 64) (hrest : rest ≠ []) :
    readScheme? cs = .ok (some (scheme, rest)) := by
  rw [readScheme?]
  split
  · next hword =>
    obtain ⟨h', -⟩ := schemed_of_word "http".toList (by decide) hword
    obtain ⟨rfl, rfl⟩ := h.unique h'
    rfl
  · next hword _ =>
    obtain ⟨h', -⟩ := schemed_of_word "https".toList (by decide) hword
    obtain ⟨rfl, rfl⟩ := h.unique h'
    rfl
  · dsimp only
    rw [h.takeWhile, h.drop, afterWord?_mark_iff.mpr rfl]
    dsimp only
    rw [if_neg fun hempty => hrest (List.isEmpty_iff.mp hempty.2), if_neg (Nat.not_lt.mpr hlength)]

/-! ## Authorities -/

theorem readAuthority_append : ∀ {cs name rest : List Char} {s : AuthorityScan},
    readAuthority s cs = .ok (name, rest) → cs = name ++ rest
  | [], name, rest, s, h => by
      rw [readAuthority] at h
      split at h
      · obtain ⟨rfl, rfl⟩ := Prod.mk.inj (Except.ok.inj h)
        rfl
      · cases h
  | c :: cs, name, rest, s, h => by
      rw [readAuthority] at h
      split at h
      · split at h
        · obtain ⟨rfl, rfl⟩ := Prod.mk.inj (Except.ok.inj h)
          rfl
        · cases h
      · obtain ⟨s', -, h⟩ := bind_eq_ok_iff.mp h
        obtain ⟨⟨name', rest'⟩, hrest, h⟩ := bind_eq_ok_iff.mp h
        obtain ⟨rfl, rfl⟩ := Prod.mk.inj (pure_eq_ok_iff.mp h)
        rw [readAuthority_append hrest]
        rfl

/-- What comes behind an authority begins with a delimiter. -/
theorem readAuthority_delimiter : ∀ {cs name rest : List Char} {s : AuthorityScan},
    readAuthority s cs = .ok (name, rest) → ∀ d ∈ rest.head?, isDelimiter d = true
  | [], name, rest, s, h, d, hd => by
      rw [readAuthority] at h
      split at h
      · obtain ⟨-, rfl⟩ := Prod.mk.inj (Except.ok.inj h)
        cases hd
      · cases h
  | c :: cs, name, rest, s, h, d, hd => by
      rw [readAuthority] at h
      split at h
      · next hc =>
        split at h
        · obtain ⟨-, rfl⟩ := Prod.mk.inj (Except.ok.inj h)
          obtain rfl := Option.some.inj hd
          exact hc
        · cases h
      · obtain ⟨s', -, h⟩ := bind_eq_ok_iff.mp h
        obtain ⟨⟨name', rest'⟩, hrest, h⟩ := bind_eq_ok_iff.mp h
        obtain ⟨-, rfl⟩ := Prod.mk.inj (pure_eq_ok_iff.mp h)
        exact readAuthority_delimiter hrest d hd

/-- An authority ends where it ends, whatever else comes behind it. -/
theorem readAuthority_front : ∀ {cs name rest : List Char} {s : AuthorityScan},
    readAuthority s cs = .ok (name, rest) → ∀ {d : Char} (more : List Char), isDelimiter d = true →
      readAuthority s (name ++ d :: more) = .ok (name, d :: more)
  | [], name, rest, s, h, d, more, hd => by
      rw [readAuthority] at h
      split at h
      · next hend =>
        obtain ⟨rfl, rfl⟩ := Prod.mk.inj (Except.ok.inj h)
        rw [List.nil_append, readAuthority, if_pos hd, if_pos hend]
      · cases h
  | c :: cs, name, rest, s, h, d, more, hd => by
      rw [readAuthority] at h
      split at h
      · split at h
        · next hend =>
          obtain ⟨rfl, rfl⟩ := Prod.mk.inj (Except.ok.inj h)
          rw [List.nil_append, readAuthority, if_pos hd, if_pos hend]
        · cases h
      · next hc =>
        obtain ⟨s', hs', h⟩ := bind_eq_ok_iff.mp h
        obtain ⟨⟨name', rest'⟩, hrest, h⟩ := bind_eq_ok_iff.mp h
        obtain ⟨rfl, rfl⟩ := Prod.mk.inj (pure_eq_ok_iff.mp h)
        rw [List.cons_append, readAuthority, if_neg hc, hs', ok_bind,
          readAuthority_front hrest more hd, ok_bind]
        rfl

/-! ## Whole URIs -/

theorem parse_of_origin {s t : String} (hlength : s.utf8ByteSize ≤ maxUriLength)
    (hslash : s.toList.head? = some '/') (hpath : readPathAndQuery s.toList = .ok t) :
    Uri.parse s = .ok ⟨none, none, some t⟩ := by
  obtain ⟨cs, hcs⟩ := List.head?_eq_some_iff.mp hslash
  rw [Uri.parse, if_neg (Nat.not_lt.mpr hlength), hcs]
  rw [hcs] at hpath
  simp only [hpath]
  rfl

theorem Schemed.head {cs scheme rest : List Char} (h : Schemed cs scheme rest) :
    ∃ c cs', cs = c :: cs' ∧ c ≠ '/' ∧ c ≠ '*' := by
  cases scheme with
  | nil => exact ⟨':', _, h.parts, by decide, by decide⟩
  | cons c scheme =>
      have hc := h.isSchemeChar c List.mem_cons_self
      refine ⟨c, _, h.parts, ?_, ?_⟩
      · rintro rfl
        exact absurd hc (by decide)
      · rintro rfl
        exact absurd hc (by decide)

theorem parse_of_schemed {s : String} {scheme rest name path : List Char} {t : String}
    (hlength : s.utf8ByteSize ≤ maxUriLength) (hscheme : Schemed s.toList scheme rest)
    (hshort : scheme.length ≤ 64) (hauthority : readAuthority .start rest = .ok (name, path))
    (hname : name ≠ []) (hpath : readPathAndQuery path = .ok t) :
    Uri.parse s = .ok ⟨some (String.ofList scheme), some (String.ofList name), some t⟩ := by
  have hrest : rest ≠ [] := by
    rintro rfl
    exact hname (List.append_eq_nil_iff.mp (readAuthority_append hauthority).symm).1
  have hread := readScheme?_of_schemed hscheme hshort hrest
  obtain ⟨c, cs, hcs, hslash, hstar⟩ := hscheme.head
  rw [Uri.parse, if_neg (Nat.not_lt.mpr hlength)]
  split
  · next heq => rw [hcs] at heq; cases heq
  · next heq => rw [hcs] at heq; exact absurd (List.cons.inj heq).1 hstar
  · next heq => rw [hcs] at heq; exact absurd (List.cons.inj heq).1 hslash
  · rw [hread, ok_bind]
    dsimp only
    rw [afterScheme, if_neg (by simpa using hrest), hauthority]
    simp [hname, hpath]

end StubHttp.Http
