import Mathlib.Data.List.TakeWhile
import StubHttp.Http.Rejection
import StubHttp.Proofs.Http.Target

/-!
# Request heads

The text of a head is told by a grammar (`HeadText`): a request line, header
lines and an empty line, each with its end, and perhaps empty lines in front.
Whatever the grammar has for a head is read as that head, and nothing beyond it
(`read_headText`), part by part: a part is a run of characters that the mark
behind it does not belong to (`upTo_append`).

A plain request is such a text without header lines, whose target is in origin
form. The target that it asks for is the one in its line (`target_plainHead`),
for the characters of an origin form are all let through as a URI
(`IsOriginForm.targetBytes`).
-/

namespace StubHttp.Http

/-! ## Origin form -/

/-- The characters of a segment of a path. -/
def isSegmentChar (c : Char) : Bool :=
  c.isAlphanum || "-._~%!$&'()*+,;=:@".toList.contains c

/-- The characters of a path and a query. -/
def isOriginChar (c : Char) : Bool :=
  isSegmentChar c || c == '/' || c == '?'

structure IsOriginForm (t : String) : Prop where
  slash : t.toList.head? = some '/'
  chars : ∀ c ∈ t.toList, isOriginChar c = true

theorem bounds_of_isAlphanum {c : Char} (h : c.isAlphanum = true) :
    (0x30 ≤ c.toNat ∧ c.toNat ≤ 0x39) ∨ (0x41 ≤ c.toNat ∧ c.toNat ≤ 0x5A)
      ∨ (0x61 ≤ c.toNat ∧ c.toNat ≤ 0x7A) := by
  have hword : (c.isUpper || c.isLower || c.isDigit) = true := h
  rcases (Bool.or_eq_true _ _).mp hword with hletter | hdigit
  · rcases (Bool.or_eq_true _ _).mp hletter with hupper | hlower
    · have hbounds : 'A'.val ≤ c.val ∧ c.val ≤ 'Z'.val := of_decide_eq_true hupper
      exact .inr (.inl (hbounds.imp UInt32.le_iff_toNat_le.mp UInt32.le_iff_toNat_le.mp))
    · obtain ⟨ha, hz⟩ := (Bool.and_eq_true _ _).mp hlower
      exact .inr (.inr ⟨UInt32.le_iff_toNat_le.mp (of_decide_eq_true ha),
        UInt32.le_iff_toNat_le.mp (of_decide_eq_true hz)⟩)
  · obtain ⟨hzero, hnine⟩ := (Bool.and_eq_true _ _).mp hdigit
    exact .inl ⟨UInt32.le_iff_toNat_le.mp (of_decide_eq_true hzero),
      UInt32.le_iff_toNat_le.mp (of_decide_eq_true hnine)⟩

/-- What holds of letters and digits, and of each mark, holds of every character of an origin
form. -/
theorem of_isOriginChar {p : Char → Bool} (hword : ∀ c : Char, c.isAlphanum = true → p c = true)
    (hmark : "-._~%!$&'()*+,;=:@/?".toList.all p = true) {c : Char} (h : isOriginChar c = true) :
    p c = true := by
  have hmark := List.all_eq_true.mp hmark
  simp only [isOriginChar, isSegmentChar, Bool.or_eq_true, beq_iff_eq, List.contains_iff_mem] at h
  rcases h with ((h | h) | rfl) | rfl
  · exact hword c h
  · exact hmark c (List.mem_append_left ['/', '?'] h)
  · exact hmark '/' (by decide)
  · exact hmark '?' (by decide)

theorem isQueryChar_of_isOriginChar {c : Char} (h : isOriginChar c = true) :
    isQueryChar c = true := by
  refine of_isOriginChar (p := isQueryChar) (fun c hc => isQueryChar_iff.mpr ?_) (by decide) h
  have hbounds := bounds_of_isAlphanum hc
  omega

theorem isPathChar_of_isOriginChar {c : Char} (h : isOriginChar c = true) (hc : c ≠ '?') :
    isPathChar c = true := by
  have hmarkOrPath : (c == '?' || isPathChar c) = true := by
    refine of_isOriginChar (p := fun c => c == '?' || isPathChar c) (fun c hc => ?_) (by decide) h
    have hbounds := bounds_of_isAlphanum hc
    rw [Bool.or_eq_true, isPathChar_iff]
    omega
  simpa [hc] using hmarkOrPath

theorem isUriChar_of_isOriginChar {c : Char} (h : isOriginChar c = true) : isUriChar c = true := by
  refine of_isOriginChar (fun c hc => ?_) (by decide) h
  have hbounds := bounds_of_isAlphanum hc
  simp only [isUriChar, Bool.and_eq_true, decide_eq_true_eq]
  omega

theorem IsOriginForm.targetBytes {t : String} (ht : IsOriginForm t) :
    TargetBytes (Text.encode t) := by
  rw [targetBytes_encode_iff, List.all_eq_true, List.all_eq_true]
  constructor
  · intro c hc
    have hmark : c ≠ '?' := of_decide_eq_true (List.mem_takeWhile_imp (p := (· ≠ '?')) hc)
    exact isPathChar_of_isOriginChar (ht.chars c ((List.takeWhile_sublist _).mem hc)) hmark
  · intro c hc
    exact isQueryChar_of_isOriginChar (ht.chars c ((List.dropWhile_sublist _).mem hc))

/-! ## Parts of a head -/

theorem upTo_append {mark : Char} {belongs : Char → Bool} {run : List Char} (hne : run ≠ [])
    (hrun : ∀ c ∈ run, belongs c = true) (hmark : belongs mark = false) (rest : List Char) :
    upTo mark belongs (run ++ mark :: rest) = .ok (run, rest) := by
  have hkept : (run ++ mark :: rest).takeWhile belongs = run := by
    rw [List.takeWhile_append_of_pos hrun, List.takeWhile_cons_of_neg (by simp [hmark]),
      List.append_nil]
  have hleft : (run ++ mark :: rest).dropWhile belongs = mark :: rest := by
    rw [List.dropWhile_append_of_pos hrun, List.dropWhile_cons_of_neg (by simp [hmark])]
  simp only [upTo, hkept, hleft]
  rw [if_neg (by simp [hne])]

theorem expect_append : ∀ (word rest : List Char), expect word (word ++ rest) = .ok rest
  | [], _ => rfl
  | w :: word, rest => by
      rw [List.cons_append, expect, if_pos rfl, expect_append word rest]

theorem skipEmptyLines_of_isTokenChar {c : Char} (hc : isTokenChar c = true) (cs : List Char) :
    skipEmptyLines (c :: cs) = .ok (c :: cs) := by
  have hfeed : c ≠ '\n' := by rintro rfl; exact absurd hc (by decide)
  have hreturn : c ≠ '\r' := by rintro rfl; exact absurd hc (by decide)
  rw [skipEmptyLines]
  · exact hfeed
  · intro cs' h
    exact absurd h hreturn
  · intro h
    exact absurd h hreturn
  · intro c' cs' h
    exact absurd h hreturn

theorem readVersion_append (v : Version) (rest : List Char) :
    readVersion (v.name.toList ++ rest) = .ok (v, rest) := by
  cases v with
  | http10 =>
      have hword : Version.http10.name.toList ++ rest = "HTTP/1.".toList ++ '0' :: rest := rfl
      rw [hword, readVersion, expect_append]
      rfl
  | http11 =>
      have hword : Version.http11.name.toList ++ rest = "HTTP/1.".toList ++ '1' :: rest := rfl
      rw [hword, readVersion, expect_append]
      rfl

/-! ## The grammar of heads -/

/-- The end of a line, with or without a carriage return. -/
inductive LineEnd : List Char → Prop
  | bare : LineEnd ['\n']
  | full : LineEnd ['\r', '\n']

/-- Empty lines in front of a head. -/
inductive EmptyLines : List Char → Prop
  | nil : EmptyLines []
  | cons {eol lines : List Char} : LineEnd eol → EmptyLines lines → EmptyLines (eol ++ lines)

/-- Header lines, and the name and the value in each of them. -/
inductive HeaderLines : List Char → List (String × String) → Prop
  | nil : HeaderLines [] []
  | cons {name value eol lines : List Char} {headers : List (String × String)} :
      name ≠ [] → (∀ c ∈ name, isTokenChar c = true) → (∀ c ∈ value, isValueChar c = true) →
      LineEnd eol → HeaderLines lines headers →
      HeaderLines (name ++ ':' :: (value ++ (eol ++ lines)))
        ((String.ofList name, String.ofList (trimSpaces value)) :: headers)

/-- The text of a head, from the empty lines in front of it to the empty line at its end. -/
inductive HeadText : List Char → Head → Prop
  | mk {blank uri eol lines eol' : List Char} {m : Method} {v : Version}
      {headers : List (String × String)} :
      EmptyLines blank → uri ≠ [] → (∀ c ∈ uri, isUriChar c = true) → LineEnd eol →
      HeaderLines lines headers → LineEnd eol' →
      HeadText (blank ++ (m.name.toList ++ ' ' :: (uri ++ ' ' :: (v.name.toList ++
        (eol ++ (lines ++ eol')))))) ⟨m, String.ofList uri, v, headers⟩

theorem endOfLine_append {eol : List Char} (h : LineEnd eol) (rest : List Char) :
    endOfLine (eol ++ rest) = .ok rest := by
  cases h with
  | bare => rfl
  | full => rfl

theorem LineEnd.starts {eol : List Char} (h : LineEnd eol) :
    ∃ c cs, eol = c :: cs ∧ (c = '\r' ∨ c = '\n') := by
  cases h with
  | bare => exact ⟨_, _, rfl, .inr rfl⟩
  | full => exact ⟨_, _, rfl, .inl rfl⟩

theorem skipEmptyLines_append {blank : List Char} (h : EmptyLines blank) (rest : List Char) :
    skipEmptyLines (blank ++ rest) = skipEmptyLines rest := by
  induction h with
  | nil => rfl
  | cons heol _ ih =>
      rw [← ih]
      cases heol with
      | bare => rfl
      | full => rfl

/-- A header line whose value does not run into its end. -/
theorem readHeader_append {name value eol : List Char} (hne : name ≠ [])
    (hname : ∀ c ∈ name, isTokenChar c = true) (hvalue : ∀ c ∈ value, isValueChar c = true)
    (heol : LineEnd eol) (rest : List Char) :
    readHeader (name ++ ':' :: (value ++ (eol ++ rest)))
      = .ok ((String.ofList name, String.ofList (trimSpaces value)), rest) := by
  obtain ⟨c, cs, hcons, hc⟩ := heol.starts
  have hend : ¬ isValueChar c = true := by rcases hc with rfl | rfl <;> decide
  have hkept : (value ++ (eol ++ rest)).takeWhile isValueChar = value := by
    rw [List.takeWhile_append_of_pos hvalue, hcons, List.cons_append,
      List.takeWhile_cons_of_neg hend, List.append_nil]
  have hleft : (value ++ (eol ++ rest)).dropWhile isValueChar = eol ++ rest := by
    rw [List.dropWhile_append_of_pos hvalue, hcons, List.cons_append,
      List.dropWhile_cons_of_neg hend]
  rw [readHeader, upTo_append hne hname (by decide), ok_bind]
  dsimp only
  rw [hleft, endOfLine_append heol, ok_bind, hkept]
  rfl

/-- There is room for so many header lines, and one more is one too many. -/
theorem readHeaders_append {lines : List Char} {headers : List (String × String)}
    (h : HeaderLines lines headers) {eol : List Char} (heol : LineEnd eol) (rest : List Char) :
    ∀ n, readHeaders n (lines ++ (eol ++ rest))
      = if headers.length ≤ n then .ok (headers, rest) else .error .tooManyHeaders := by
  induction h with
  | nil =>
      intro n
      have hline := endOfLine_append heol rest
      obtain ⟨c, cs, rfl, hc⟩ := heol.starts
      rw [List.cons_append] at hline
      rw [List.nil_append, List.cons_append, if_pos (show [].length ≤ n from Nat.zero_le n)]
      cases n with
      | zero => rw [readHeaders, if_pos hc, hline]; rfl
      | succ n => rw [readHeaders, if_pos hc, hline]; rfl
  | @cons name value eol' lines headers hne hname hvalue heol' _ ih =>
      intro n
      have hline := readHeader_append hne hname hvalue heol' (lines ++ (eol ++ rest))
      obtain ⟨c, name, rfl⟩ := List.exists_cons_of_ne_nil hne
      have hc : ¬ (c = '\r' ∨ c = '\n') := by
        have htoken := hname c List.mem_cons_self
        rintro (rfl | rfl) <;> exact absurd htoken (by decide)
      simp only [List.cons_append, List.append_assoc] at hline ⊢
      cases n with
      | zero => rw [readHeaders, if_neg hc]; rfl
      | succ n =>
          rw [readHeaders, if_neg hc]
          dsimp only
          rw [hline, ok_bind]
          dsimp only
          rw [ih n]
          simp only [List.length_cons, Nat.add_le_add_iff_right]
          by_cases hroom : headers.length ≤ n
          · rw [if_pos hroom, if_pos hroom]
            rfl
          · rw [if_neg hroom, if_neg hroom]
            rfl

/-- What the grammar has for a head is read as that head, unless it has too many header lines. -/
theorem read_headText {text : List Char} {head : Head} (h : HeadText text head)
    (rest : List Char) :
    Head.read (text ++ rest)
      = if head.headers.length ≤ maxHeaders then .ok (head, rest) else .error .tooManyHeaders := by
  cases h with
  | @mk blank uri eol lines eol' m v headers hblank huri hchars heol hlines heol' =>
      obtain ⟨hname, htoken⟩ := m.isToken
      have htoken : ∀ c ∈ m.name.toList, isTokenChar c = true := List.all_eq_true.mp htoken
      obtain ⟨first, others, hsplit⟩ := List.exists_cons_of_ne_nil hname
      have hskip : ∀ cs, skipEmptyLines (m.name.toList ++ cs) = .ok (m.name.toList ++ cs) := by
        intro cs
        rw [hsplit, List.cons_append]
        exact skipEmptyLines_of_isTokenChar
          (htoken first (by rw [hsplit]; exact List.mem_cons_self)) _
      have hmethod : Method.ofString? (String.ofList m.name.toList) = some m := by
        rw [String.ofList_toList]
        exact dif_pos m.isToken
      -- Part by part: method, target, version, the end of the line, and the header lines.
      simp only [List.append_assoc, List.cons_append]
      rw [Head.read, skipEmptyLines_append hblank, hskip, ok_bind,
        upTo_append hname htoken (by decide), ok_bind]
      dsimp only
      rw [upTo_append huri hchars (by decide), ok_bind]
      dsimp only
      rw [readVersion_append, ok_bind]
      dsimp only
      rw [endOfLine_append heol, ok_bind, readHeaders_append hlines heol']
      by_cases hroom : headers.length ≤ maxHeaders
      · rw [if_pos hroom, if_pos hroom, ok_bind]
        dsimp only
        rw [hmethod]
        rfl
      · rw [if_neg hroom, if_neg hroom]
        rfl

/-! ## Plain requests -/

/-- A request without headers, as it is sent. -/
def plainRequest (m : Method) (target : String) (v : Version) : String :=
  m.name ++ " " ++ target ++ " " ++ v.name ++ "\r\n" ++ "\r\n"

theorem toList_plainRequest (m : Method) (target : String) (v : Version) :
    (plainRequest m target v).toList
      = m.name.toList ++ ' ' :: (target.toList ++ ' ' :: (v.name.toList ++ "\r\n\r\n".toList)) := by
  simp [plainRequest]

theorem headText_plainRequest (m : Method) {target : String} (ht : IsOriginForm target)
    (v : Version) : HeadText (plainRequest m target v).toList ⟨m, target, v, []⟩ := by
  have hne : target.toList ≠ [] := by
    intro hnil
    have hslash := ht.slash
    rw [hnil] at hslash
    cases hslash
  have htext : HeadText _ ⟨m, String.ofList target.toList, v, []⟩ :=
    .mk .nil hne (fun c hc => isUriChar_of_isOriginChar (ht.chars c hc)) .full .nil .full
  rw [String.ofList_toList] at htext
  rw [toList_plainRequest]
  exact htext

theorem read_plainRequest (m : Method) {target : String} (ht : IsOriginForm target) (v : Version)
    (rest : List Char) :
    Head.read ((plainRequest m target v).toList ++ rest) = .ok (⟨m, target, v, []⟩, rest) := by
  rw [read_headText (headText_plainRequest m ht v)]
  exact if_pos (Nat.zero_le maxHeaders)

theorem target_plainHead (m : Method) {target : String} (ht : IsOriginForm target)
    (hlength : target.utf8ByteSize ≤ maxUriLength) (v : Version) :
    Head.target ⟨m, target, v, []⟩ = .ok target := by
  rw [Head.target, if_neg (Nat.not_lt.mpr hlength)]
  simp only [parse_of_slash ht.slash ht.targetBytes hlength]
  rfl

end StubHttp.Http
