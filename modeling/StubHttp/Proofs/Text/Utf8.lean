import Mathlib.Tactic.SplitIfs
import StubHttp.Text.Bytes

/-!
# Text and its bytes

Reading the bytes of a text gives the text back (`decode_encode`), so that
nothing is lost on a console that has taken all of it. A byte below `0x80`
stands for a character of its own wherever it occurs: in particular the byte
of a line feed occurs in the encoding of a text only where a line feed does
(`lineFeed_mem_encode_iff`), and cutting bytes at that byte cuts the text into
its lines.

Both go character by character. What a first byte announces, and the bounds it
sets for the byte after it, is exactly what `String.utf8EncodeChar` writes:
the bounds leave out the forms that are too long and the surrogates, and a
`Char` is neither.
-/

namespace StubHttp.Text

theorem toNat_ofNat_of_lt {n : Nat} (h : n < 256) : (UInt8.ofNat n).toNat = n := by
  simp [Nat.mod_eq_of_lt h]

/-! ## One character -/

/-- One byte after the first is taken in if it is within the bounds. -/
theorem complete_continuation {more value n : Nat} {low high : UInt8} (hn : n < 64)
    (hlow : low.toNat ≤ n + 0x80) (hhigh : n + 0x80 ≤ high.toNat) (rest : List UInt8) :
    complete (more + 1) value low high (UInt8.ofNat (n + 0x80) :: rest)
      = complete more (value * 64 + n) 0x80 0xBF rest := by
  have hbyte : (UInt8.ofNat (n + 0x80)).toNat = n + 0x80 := toNat_ofNat_of_lt (by omega)
  have hbounds : low ≤ UInt8.ofNat (n + 0x80) ∧ UInt8.ofNat (n + 0x80) ≤ high := by
    rw [UInt8.le_iff_toNat_le, UInt8.le_iff_toNat_le, hbyte]
    exact ⟨hlow, hhigh⟩
  rw [complete, if_pos hbounds, hbyte, Nat.add_sub_cancel]

/-- A continuation byte within the bounds that hold from the second one on. -/
theorem complete_later {more value n : Nat} (hn : n < 64) (rest : List UInt8) :
    complete (more + 1) value 0x80 0xBF (UInt8.ofNat (n + 0x80) :: rest)
      = complete more (value * 64 + n) 0x80 0xBF rest :=
  complete_continuation hn (by simp) (by simp; omega) rest

/-- A character is neither a surrogate nor beyond the last plane. -/
theorem char_bounds (c : Char) :
    c.val.toNat < 0xD800 ∨ (0xDFFF < c.val.toNat ∧ c.val.toNat < 0x110000) := c.valid

theorem announced?_two {v : Nat} (hlow : 0x7F < v) (hhigh : v ≤ 0x7FF) :
    announced? (UInt8.ofNat (v / 64 % 0x20 + 0xC0)) = some (1, v / 64, 0x80, 0xBF) := by
  rw [announced?, toNat_ofNat_of_lt (by omega), if_neg (by omega), if_pos (by omega)]
  simp only [Option.some.injEq, Prod.mk.injEq, true_and, and_true]
  omega

/-- The bounds that the first of three bytes sets leave room for the second: the lower one leaves
out the numbers that two bytes can hold, the upper one the surrogates. -/
theorem announced?_three {v : Nat} (hlow : 0x7FF < v) (hhigh : v ≤ 0xFFFF)
    (hvalid : v < 0xD800 ∨ 0xDFFF < v) :
    ∃ low high, announced? (UInt8.ofNat (v / 4096 % 0x10 + 0xE0)) = some (2, v / 4096, low, high)
      ∧ low.toNat ≤ v / 64 % 64 + 0x80 ∧ v / 64 % 64 + 0x80 ≤ high.toNat := by
  rw [announced?, toNat_ofNat_of_lt (by omega), if_neg (by omega), if_neg (by omega)]
  have hlead : v / 4096 % 0x10 = v / 4096 := by omega
  rw [hlead]
  by_cases h0 : v / 4096 = 0
  · rw [if_pos (by omega)]
    exact ⟨_, _, by rw [h0], by simp; omega, by simp; omega⟩
  rw [if_neg (by omega)]
  by_cases hD : v / 4096 = 0xD
  · rw [if_pos (by omega)]
    exact ⟨_, _, by rw [hD], by simp, by simp; omega⟩
  rw [if_neg (by omega), if_pos (by omega), Nat.add_sub_cancel]
  exact ⟨_, _, rfl, by simp, by simp; omega⟩

theorem announced?_four {v : Nat} (hlow : 0xFFFF < v) (hhigh : v < 0x110000) :
    ∃ low high,
      announced? (UInt8.ofNat (v / 262144 % 0x08 + 0xF0)) = some (3, v / 262144, low, high)
      ∧ low.toNat ≤ v / 4096 % 64 + 0x80 ∧ v / 4096 % 64 + 0x80 ≤ high.toNat := by
  rw [announced?, toNat_ofNat_of_lt (by omega), if_neg (by omega), if_neg (by omega),
    if_neg (by omega), if_neg (by omega), if_neg (by omega)]
  have hlead : v / 262144 % 0x08 = v / 262144 := by omega
  rw [hlead]
  by_cases h0 : v / 262144 = 0
  · rw [if_pos (by omega)]
    exact ⟨_, _, by rw [h0], by simp; omega, by simp; omega⟩
  rw [if_neg (by omega)]
  by_cases h3 : v / 262144 ≤ 3
  · rw [if_pos (by omega), Nat.add_sub_cancel]
    exact ⟨_, _, rfl, by simp, by simp; omega⟩
  have h4 : v / 262144 = 4 := by omega
  rw [if_neg (by omega), if_pos (by omega)]
  exact ⟨_, _, by rw [h4], by simp, by simp; omega⟩

/-- The first byte of a character announces the others, and they complete it. -/
theorem complete_encodeChar (c : Char) (rest : List UInt8) :
    ∃ b bytes more value low high, String.utf8EncodeChar c = b :: bytes ∧
      announced? b = some (more, value, low, high) ∧
      complete more value low high (bytes ++ rest) = (some c.toNat, rest) := by
  have hvalid := char_bounds c
  have hval : c.toNat = c.val.toNat := rfl
  rw [hval]
  generalize hv : c.val.toNat = v at hvalid
  simp only [String.utf8EncodeChar, hv]
  by_cases h1 : v ≤ 0x7F
  · refine ⟨_, _, 0, v, 0x80, 0xBF, if_pos h1, ?_, rfl⟩
    rw [announced?, toNat_ofNat_of_lt (by omega), if_pos (by omega)]
  rw [if_neg h1]
  by_cases h2 : v ≤ 0x7FF
  · refine ⟨_, _, _, _, _, _, if_pos h2, announced?_two (by omega) h2, ?_⟩
    rw [List.cons_append, complete_later (by omega), complete, List.nil_append,
      show v / 64 * 64 + v % 64 = v by omega]
  rw [if_neg h2]
  by_cases h3 : v ≤ 0xFFFF
  · obtain ⟨low, high, hfirst, hlow, hhigh⟩ := announced?_three (by omega) h3 (by omega)
    refine ⟨_, _, _, _, _, _, if_pos h3, hfirst, ?_⟩
    rw [List.cons_append, complete_continuation (by omega) hlow hhigh, List.cons_append,
      complete_later (by omega), complete, List.nil_append,
      show (v / 4096 * 64 + v / 64 % 64) * 64 + v % 64 = v by omega]
  · obtain ⟨low, high, hfirst, hlow, hhigh⟩ := announced?_four (v := v) (by omega) (by omega)
    refine ⟨_, _, _, _, _, _, if_neg h3, hfirst, ?_⟩
    rw [List.cons_append, complete_continuation (by omega) hlow hhigh, List.cons_append,
      complete_later (by omega), List.cons_append, complete_later (by omega), complete,
      List.nil_append,
      show ((v / 262144 * 64 + v / 4096 % 64) * 64 + v / 64 % 64) * 64 + v % 64 = v by omega]

/-! ## Whole texts -/

/-- Each character takes one piece, so there are as many pieces as characters. -/
theorem decodeWithin_flatMap_encodeChar : ∀ (n : Nat) (cs : List Char), cs.length ≤ n →
    decodeWithin n (cs.flatMap String.utf8EncodeChar) = cs
  | 0, [], _ => rfl
  | _ + 1, [], _ => rfl
  | n + 1, c :: cs, h => by
      obtain ⟨b, bytes, more, value, low, high, hbytes, hfirst, hrest⟩ :=
        complete_encodeChar c (cs.flatMap String.utf8EncodeChar)
      rw [List.flatMap_cons, hbytes, List.cons_append, decodeWithin, hfirst]
      simp only [hrest]
      rw [Char.ofNat_toNat, decodeWithin_flatMap_encodeChar n cs (by simpa using h)]

theorem length_le_length_encode : ∀ cs : List Char,
    cs.length ≤ (cs.flatMap String.utf8EncodeChar).length
  | [] => Nat.le_refl _
  | c :: cs => by
      have hpos : 0 < (String.utf8EncodeChar c).length := by
        rw [String.length_utf8EncodeChar]; exact c.utf8Size_pos
      have ih := length_le_length_encode cs
      rw [List.flatMap_cons, List.length_append, List.length_cons]
      omega

/-- The bytes of a text are read as that text. -/
theorem decode_encode (s : String) : decode (encode s) = s := by
  rw [decode, encode, decodeWithin_flatMap_encodeChar _ _ (length_le_length_encode _),
    String.ofList_toList]

theorem encode_append (s t : String) : encode (s ++ t) = encode s ++ encode t := by
  rw [encode, String.toList_append, List.flatMap_append, encode, encode]

theorem length_encode (s : String) : (encode s).length = s.utf8ByteSize := by
  rw [← String.size_toByteArray, ← String.utf8Encode_toList, List.utf8Encode, List.size_toByteArray,
    encode]

/-! ## Bytes of ASCII characters -/

/-- All bytes of a character outside ASCII lie outside ASCII. -/
theorem le_of_mem_encodeChar {c : Char} (hc : 0x7F < c.val.toNat) {b : UInt8}
    (hb : b ∈ String.utf8EncodeChar c) : 0x80 ≤ b.toNat := by
  have hvalid := char_bounds c
  generalize hv : c.val.toNat = v at hc hvalid
  simp only [String.utf8EncodeChar, hv, if_neg (Nat.not_le.mpr hc)] at hb
  split_ifs at hb <;> simp only [List.mem_cons, List.not_mem_nil, or_false] at hb
  · rcases hb with rfl | rfl <;> rw [toNat_ofNat_of_lt (by omega)] <;> omega
  · rcases hb with rfl | rfl | rfl <;> rw [toNat_ofNat_of_lt (by omega)] <;> omega
  · rcases hb with rfl | rfl | rfl | rfl <;> rw [toNat_ofNat_of_lt (by omega)] <;> omega

theorem encodeChar_of_lt {a : Char} (ha : a.toNat < 0x80) :
    String.utf8EncodeChar a = [UInt8.ofNat a.toNat] := by
  have hle : a.val.toNat ≤ 0x7F := Nat.le_of_lt_succ ha
  simp only [String.utf8EncodeChar, if_pos hle]
  rfl

/-- The byte of an ASCII character stands for that character only. -/
theorem byte_mem_encodeChar_iff {a : Char} (ha : a.toNat < 0x80) (c : Char) :
    UInt8.ofNat a.toNat ∈ String.utf8EncodeChar c ↔ c = a := by
  have hbyte : (UInt8.ofNat a.toNat).toNat = a.toNat := toNat_ofNat_of_lt (by omega)
  constructor
  · intro h
    by_cases hc : c.val.toNat ≤ 0x7F
    · simp only [String.utf8EncodeChar, if_pos hc, List.mem_singleton] at h
      have hval : a.toNat = c.val.toNat := by
        rw [← hbyte, h, toNat_ofNat_of_lt (by omega)]
      exact Char.ext (UInt32.toNat_inj.mp hval.symm)
    · have hle := le_of_mem_encodeChar (Nat.not_le.mp hc) h
      omega
  · rintro rfl
    rw [encodeChar_of_lt ha]
    exact List.mem_singleton_self _

theorem lineFeed_mem_encodeChar_iff (c : Char) :
    (0x0A : UInt8) ∈ String.utf8EncodeChar c ↔ c = '\n' :=
  byte_mem_encodeChar_iff (show '\n'.toNat < 0x80 by decide) c

theorem lineFeed_mem_encode_iff (s : String) : (0x0A : UInt8) ∈ encode s ↔ '\n' ∈ s.toList := by
  simp [encode, lineFeed_mem_encodeChar_iff]

theorem byte_ne_of_mem_encodeChar {a c : Char} (ha : a.toNat < 0x80) (hc : c ≠ a) {b : UInt8}
    (hb : b ∈ String.utf8EncodeChar c) : b ≠ UInt8.ofNat a.toNat := by
  rintro rfl
  exact hc ((byte_mem_encodeChar_iff ha c).mp hb)

/-- Bytes are cut in front of an ASCII character where the text is. -/
theorem span_encode {a : Char} (ha : a.toNat < 0x80) : ∀ cs : List Char,
    (cs.flatMap String.utf8EncodeChar).takeWhile (· ≠ UInt8.ofNat a.toNat)
        = (cs.takeWhile (· ≠ a)).flatMap String.utf8EncodeChar ∧
      (cs.flatMap String.utf8EncodeChar).dropWhile (· ≠ UInt8.ofNat a.toNat)
        = (cs.dropWhile (· ≠ a)).flatMap String.utf8EncodeChar
  | [] => ⟨rfl, rfl⟩
  | c :: cs => by
      obtain ⟨htake, hdrop⟩ := span_encode ha cs
      by_cases hc : c = a
      · subst hc
        simp [encodeChar_of_lt ha]
      · have hbytes : ∀ b ∈ String.utf8EncodeChar c,
            decide (b ≠ UInt8.ofNat a.toNat) = true := fun b hb =>
          decide_eq_true (byte_ne_of_mem_encodeChar ha hc hb)
        have hkept : decide (c ≠ a) = true := decide_eq_true hc
        rw [List.flatMap_cons, List.takeWhile_append_of_pos hbytes,
          List.dropWhile_append_of_pos hbytes, List.takeWhile_cons, List.dropWhile_cons, hkept,
          htake, hdrop]
        exact ⟨rfl, rfl⟩

/-- A class of numbers that leaves out none outside ASCII holds the bytes of a text if it holds its
characters. -/
theorem forall_mem_encode_iff {P : Nat → Prop} (hbeyond : ∀ n, 0x80 ≤ n → P n) (cs : List Char) :
    (∀ b ∈ cs.flatMap String.utf8EncodeChar, P b.toNat) ↔ ∀ c ∈ cs, P c.toNat := by
  have hchar : ∀ c : Char, (∀ b ∈ String.utf8EncodeChar c, P b.toNat) ↔ P c.toNat := by
    intro c
    by_cases hc : c.toNat < 0x80
    · rw [encodeChar_of_lt hc, List.forall_mem_singleton, toNat_ofNat_of_lt (by omega)]
    · have hle : 0x80 ≤ c.toNat := Nat.not_lt.mp hc
      exact ⟨fun _ => hbeyond _ hle, fun _ b hb => hbeyond _ (le_of_mem_encodeChar hle hb)⟩
  simp only [List.mem_flatMap, forall_exists_index, and_imp]
  constructor
  · intro h c hc
    exact (hchar c).mp fun b hb => h b c hc hb
  · intro h b c hc hb
    exact (hchar c).mpr (h c hc) b hb

end StubHttp.Text
