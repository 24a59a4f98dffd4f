import Mathlib.Data.List.Flatten
import Mathlib.Data.List.TakeWhile
import StubHttp.Proofs.Http.Absolute
import StubHttp.Proofs.Text.Utf8

/-!
# Which targets there are

Of all texts that begin with a slash, those are targets of a URI whose bytes
are bytes of a path up to the first question mark and bytes of a query from
there on, and which are not longer than a URI may be (`exists_target_iff`).

Such a text is a URI by itself, and its own target (`parse_of_slash`). The
other way round, whatever form a URI has, a target with a slash in front is cut
out of it as it stands (`target_of_parse`), so it is not longer, and it has been
looked at byte by byte on the way.
-/

namespace StubHttp.Http

/-! ## Bytes -/

def PathByte (b : UInt8) : Prop :=
  b = 0x21 ∨ b = 0x22 ∨ (0x24 ≤ b ∧ b ≤ 0x3B) ∨ b = 0x3D ∨ (0x40 ≤ b ∧ b ≤ 0x5F)
    ∨ (0x61 ≤ b ∧ b ≤ 0x7E) ∨ 0x80 ≤ b

/-- In a query there may be question marks and backquotes too, but no double quotes. -/
def QueryByte (b : UInt8) : Prop :=
  (PathByte b ∨ b = 0x3F ∨ b = 0x60) ∧ b ≠ 0x22

/-- The bytes of a path, and of a query from the first question mark on. -/
def TargetBytes (bytes : List UInt8) : Prop :=
  (∀ b ∈ bytes.takeWhile (· ≠ 0x3F), PathByte b) ∧ ∀ b ∈ bytes.dropWhile (· ≠ 0x3F), QueryByte b

instance : DecidablePred PathByte := fun _ => inferInstanceAs (Decidable (_ ∨ _))

instance : DecidablePred QueryByte := fun _ => inferInstanceAs (Decidable (_ ∧ _))

instance : DecidablePred TargetBytes := fun bytes =>
  decidable_of_iff ((bytes.takeWhile (· ≠ 0x3F)).all (PathByte ·) = true ∧
      (bytes.dropWhile (· ≠ 0x3F)).all (QueryByte ·) = true)
    (by simp only [TargetBytes, List.all_eq_true, decide_eq_true_eq])

theorem pathByte_iff (b : UInt8) : PathByte b ↔ PathCode b.toNat := by
  simp [PathByte, ← UInt8.toNat_inj, UInt8.le_iff_toNat_le]

theorem queryByte_iff (b : UInt8) : QueryByte b ↔ QueryCode b.toNat := by
  have hquote : b ≠ 0x22 ↔ b.toNat ≠ 0x22 := by simp [← UInt8.toNat_inj]
  have hmark : b = 0x3F ↔ b.toNat = 0x3F := by simp [← UInt8.toNat_inj]
  have hbackquote : b = 0x60 ↔ b.toNat = 0x60 := by simp [← UInt8.toNat_inj]
  rw [QueryByte, pathByte_iff, hquote, hmark, hbackquote]
  omega

theorem forall_pathByte_iff (cs : List Char) :
    (∀ b ∈ cs.flatMap String.utf8EncodeChar, PathByte b) ↔ cs.all isPathChar = true := by
  simp only [pathByte_iff, List.all_eq_true, isPathChar_iff]
  exact Text.forall_mem_encode_iff (P := PathCode) (fun n hn => by omega) cs

theorem forall_queryByte_iff (cs : List Char) :
    (∀ b ∈ cs.flatMap String.utf8EncodeChar, QueryByte b) ↔ cs.all isQueryChar = true := by
  simp only [queryByte_iff, List.all_eq_true, isQueryChar_iff]
  exact Text.forall_mem_encode_iff (P := QueryCode) (fun n hn => by omega) cs

/-- The bytes are those of a target if the characters are what `readPathAndQuery` asks for. -/
theorem targetBytes_encode_iff (t : String) :
    TargetBytes (Text.encode t) ↔
      (t.toList.takeWhile (· ≠ '?')).all isPathChar = true ∧
      (t.toList.dropWhile (· ≠ '?')).all isQueryChar = true := by
  obtain ⟨htake, hdrop⟩ := Text.span_encode (show '?'.toNat < 0x80 by decide) t.toList
  rw [TargetBytes, Text.encode, ← forall_pathByte_iff, ← forall_queryByte_iff, ← htake, ← hdrop]
  rfl

/-! ## From a target to a URI -/

theorem ne_hash_of_mem {cs : List Char} (hpath : (cs.takeWhile (· ≠ '?')).all isPathChar = true)
    (hquery : (cs.dropWhile (· ≠ '?')).all isQueryChar = true) {c : Char} (hc : c ∈ cs) :
    c ≠ '#' := by
  rintro rfl
  rw [← List.takeWhile_append_dropWhile (p := (· ≠ '?')) (l := cs)] at hc
  rcases List.mem_append.mp hc with hc | hc
  · exact absurd (List.all_eq_true.mp hpath '#' hc) (by decide)
  · exact absurd (List.all_eq_true.mp hquery '#' hc) (by decide)

/-- A text of the right bytes that begins with a slash is a URI, and its own target. -/
theorem parse_of_slash {t : String} (hslash : t.toList.head? = some '/')
    (hbytes : TargetBytes (Text.encode t)) (hlength : t.utf8ByteSize ≤ maxUriLength) :
    Uri.parse t = .ok ⟨none, none, some t⟩ := by
  obtain ⟨hpath, hquery⟩ := (targetBytes_encode_iff t).mp hbytes
  have hkept : t.toList.takeWhile (· ≠ '#') = t.toList :=
    List.takeWhile_eq_self_iff.mpr fun c hc => decide_eq_true (ne_hash_of_mem hpath hquery hc)
  have hread : readPathAndQuery t.toList = .ok t := by
    rw [readPathAndQuery_eq_ok_iff, hkept]
    refine ⟨hpath, hquery, ?_⟩
    cases hcs : t.toList with
    | nil => rw [hcs] at hslash; cases hslash
    | cons c cs => rw [← hcs, String.ofList_toList]; simp [hcs]
  exact parse_of_origin hlength hslash hread

/-! ## From a URI to its target -/

theorem readPathAndQuery_sound {cs : List Char} {t : String} (h : readPathAndQuery cs = .ok t) :
    TargetBytes (Text.encode t) ∧ (t = "/" ∨ t.toList.Sublist cs) := by
  obtain ⟨hpath, hquery, rfl⟩ := readPathAndQuery_eq_ok_iff.mp h
  split
  · refine ⟨(targetBytes_encode_iff "/").mpr ?_, .inl rfl⟩
    decide
  · rw [targetBytes_encode_iff, String.toList_ofList]
    exact ⟨⟨hpath, hquery⟩, .inr (List.takeWhile_sublist _)⟩

/-- A target that begins with a slash consists of the right bytes, and unless it is the slash that
stands for nothing it is cut out of the URI. -/
theorem target_of_parse {s : String} {u : Uri} (h : Uri.parse s = .ok u)
    (hslash : u.target.toList.head? = some '/') :
    TargetBytes (Text.encode u.target) ∧ (u.target = "/" ∨ u.target.toList.Sublist s.toList) := by
  cases Uri.form_of_parse h with
  | star => exact absurd hslash (by decide)
  | authority => exact absurd hslash (by simp [Uri.target])
  | origin _ ht => exact readPathAndQuery_sound ht
  | absolute hscheme hauthority _ ht =>
      obtain ⟨hbytes, hcut⟩ := readPathAndQuery_sound ht
      refine ⟨hbytes, hcut.imp_right fun hsub => ?_⟩
      -- Scheme and authority stand in front, so what is cut out of the rest is cut out of the URI.
      have hparts := (readScheme?_sound hscheme).1.parts
      rw [readAuthority_append hauthority] at hparts
      rw [hparts]
      exact hsub.trans ((List.sublist_append_right _ _).trans
        ((List.sublist_append_right _ _).trans (List.sublist_append_right _ _)))

theorem utf8ByteSize_le_of_parse {s : String} {u : Uri} (h : Uri.parse s = .ok u) :
    s.utf8ByteSize ≤ maxUriLength := by
  rw [Uri.parse] at h
  split at h
  · cases h
  · next hlength => exact Nat.not_lt.mp hlength

/-- The texts with a slash in front that are the target of some URI. -/
theorem exists_target_iff {t : String} (hslash : t.toList.head? = some '/') :
    (∃ s u, Uri.parse s = .ok u ∧ u.target = t) ↔
      TargetBytes (Text.encode t) ∧ t.utf8ByteSize ≤ maxUriLength := by
  constructor
  · rintro ⟨s, u, hu, rfl⟩
    obtain ⟨hbytes, hcut⟩ := target_of_parse hu hslash
    refine ⟨hbytes, ?_⟩
    rcases hcut with heq | hsub
    · rw [heq]
      decide
    · have hlength := (hsub.flatMap String.utf8EncodeChar).length_le
      rw [← Text.encode, ← Text.encode, Text.length_encode, Text.length_encode] at hlength
      exact hlength.trans (utf8ByteSize_le_of_parse hu)
  · rintro ⟨hbytes, hlength⟩
    exact ⟨t, _, parse_of_slash hslash hbytes hlength, rfl⟩

end StubHttp.Http
