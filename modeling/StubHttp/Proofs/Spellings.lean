import StubHttp.Proofs.Dispatch
import StubHttp.Proofs.Http.Target

/-!
# The spellings of a target

A target that begins with a slash can be asked for in four ways (`spellings`):
by itself or behind a scheme and an authority, and each with a fragment behind
it. Scheme and authority have to be ones that occur in some URI that is
accepted, and the fragment can be any text. Each spelling is a URI with that
very target (`parse_spelling`), and a request is answered from its method and
its target alone, so it makes no difference which of them is used
(`exchange_spelling`).
-/

namespace StubHttp

open Http

namespace Http

/-! ## Parts of accepted URIs -/

def IsScheme (scheme : String) : Prop :=
  ∃ s u, Uri.parse s = .ok u ∧ u.scheme = some scheme

def IsAuthority (authority : String) : Prop :=
  ∃ s u, Uri.parse s = .ok u ∧ u.authority = some authority

theorem IsScheme.chars {scheme : String} (h : IsScheme scheme) :
    (∀ c ∈ scheme.toList, isSchemeChar c = true) ∧ scheme.toList.length ≤ 64 := by
  obtain ⟨s, u, hu, hscheme⟩ := h
  cases Uri.form_of_parse hu with
  | star => cases hscheme
  | origin => cases hscheme
  | absolute hread =>
      obtain rfl := Option.some.inj hscheme
      obtain ⟨hschemed, hlength⟩ := readScheme?_sound hread
      rw [String.toList_ofList]
      exact ⟨hschemed.isSchemeChar, hlength⟩
  | authority => cases hscheme

/-- An authority can be read again in front of a slash. -/
theorem IsAuthority.read {authority : String} (h : IsAuthority authority) :
    authority.toList ≠ [] ∧ ∀ cs, readAuthority .start (authority.toList ++ '/' :: cs)
      = .ok (authority.toList, '/' :: cs) := by
  obtain ⟨s, u, hu, hauthority⟩ := h
  cases Uri.form_of_parse hu with
  | star => cases hauthority
  | origin => cases hauthority
  | absolute _ hread hne _ =>
      obtain rfl := Option.some.inj hauthority
      rw [String.toList_ofList]
      exact ⟨hne, fun cs => readAuthority_front hread cs rfl⟩
  | @authority name hread =>
      obtain rfl := Option.some.inj hauthority
      rw [String.toList_ofList]
      refine ⟨?_, fun cs => readAuthority_front hread cs rfl⟩
      rintro rfl
      have hs := readAuthority_append hread
      rw [Uri.parse, hs] at hu
      split at hu <;> cases hu

/-! ## Targets with and without a fragment -/

/-- What may stand behind a target: nothing or a fragment. -/
def Fragment (tail : List Char) : Prop :=
  ∀ c ∈ tail.head?, c = '#'

theorem takeWhile_fragment {cs tail : List Char} (h : '#' ∉ cs) (htail : Fragment tail) :
    (cs ++ tail).takeWhile (· ≠ '#') = cs := by
  have hcs : ∀ c ∈ cs, decide (c ≠ '#') = true := fun c hc =>
    decide_eq_true (ne_of_mem_of_not_mem hc h)
  rw [List.takeWhile_append_of_pos hcs]
  cases tail with
  | nil => exact List.append_nil cs
  | cons c tail =>
      rw [htail c rfl, List.takeWhile_cons_of_neg (by decide), List.append_nil]

theorem readPathAndQuery_of_parse {p : String} {u : Uri} (hslash : p.toList.head? = some '/')
    (hu : Uri.parse p = .ok u) : ∃ t, readPathAndQuery p.toList = .ok t := by
  obtain ⟨cs, hcs⟩ := List.head?_eq_some_iff.mp hslash
  cases Uri.form_of_parse hu with
  | star heq => rw [heq] at hcs; cases hcs
  | origin _ ht => exact ⟨_, ht⟩
  | absolute hread =>
      obtain ⟨c, _, hc, hne, -⟩ := (readScheme?_sound hread).1.head
      rw [hcs] at hc
      exact absurd (List.cons.inj hc).1.symm hne
  | authority hread => rw [hcs] at hread; cases hread

/-- A target that is a URI by itself is read back, up to the fragment. -/
theorem readPathAndQuery_fragment {p : String} {u : Uri} (hslash : p.toList.head? = some '/')
    (hhash : '#' ∉ p.toList) (hu : Uri.parse p = .ok u) {tail : List Char} (htail : Fragment tail) :
    readPathAndQuery (p.toList ++ tail) = .ok p := by
  obtain ⟨t, ht⟩ := readPathAndQuery_of_parse hslash hu
  have hkept : (p.toList ++ []).takeWhile (· ≠ '#') = p.toList := takeWhile_fragment hhash nofun
  have hne : ¬ p.toList.isEmpty = true := by
    intro hempty
    rw [List.isEmpty_iff.mp hempty] at hslash
    cases hslash
  rw [List.append_nil] at hkept
  rw [readPathAndQuery_eq_ok_iff, hkept] at ht
  rw [readPathAndQuery_eq_ok_iff, takeWhile_fragment hhash htail, if_neg hne, String.ofList_toList]
  exact ⟨ht.1, ht.2.1, rfl⟩

end Http

/-! ## The four spellings -/

/-- The URIs for a target: by itself or behind a scheme and an authority, and with a fragment. -/
def spellings (scheme authority target fragment : String) : List String :=
  [target, target ++ "#" ++ fragment, scheme ++ "://" ++ authority ++ target,
    scheme ++ "://" ++ authority ++ target ++ "#" ++ fragment]

theorem mem_spellings {scheme authority target fragment uri : String}
    (h : uri ∈ spellings scheme authority target fragment) :
    ∃ tail, Fragment tail ∧ (uri.toList = target.toList ++ tail ∨
      uri.toList
        = scheme.toList ++ ("://".toList ++ (authority.toList ++ (target.toList ++ tail)))) := by
  have hfragment : Fragment ("#".toList ++ fragment.toList) := by
    intro c hc
    exact (Option.some.inj hc).symm
  simp only [spellings, List.mem_cons, List.not_mem_nil, or_false] at h
  rcases h with rfl | rfl | rfl | rfl
  · exact ⟨[], nofun, .inl (List.append_nil _).symm⟩
  · exact ⟨_, hfragment, .inl (by simp only [String.toList_append, List.append_assoc])⟩
  · exact ⟨[], nofun,
      .inr (by simp only [String.toList_append, List.append_assoc, List.append_nil])⟩
  · exact ⟨_, hfragment, .inr (by simp only [String.toList_append, List.append_assoc])⟩

theorem parse_spelling {scheme authority p fragment uri : String} {u : Uri}
    (hslash : p.toList.head? = some '/') (hhash : '#' ∉ p.toList) (hu : Uri.parse p = .ok u)
    (hscheme : IsScheme scheme) (hauthority : IsAuthority authority)
    (huri : uri ∈ spellings scheme authority p fragment)
    (hlength : uri.utf8ByteSize ≤ maxUriLength) :
    ∃ u', Uri.parse uri = .ok u' ∧ u'.target = p := by
  obtain ⟨cs, hcs⟩ := List.head?_eq_some_iff.mp hslash
  obtain ⟨tail, htail, hparts | hparts⟩ := mem_spellings huri
  · refine ⟨_, parse_of_origin hlength ?_ ?_, rfl⟩
    · rw [hparts, hcs]
      rfl
    · rw [hparts]
      exact readPathAndQuery_fragment hslash hhash hu htail
  · obtain ⟨hchars, hshort⟩ := hscheme.chars
    obtain ⟨hne, hread⟩ := hauthority.read
    have hpath := readPathAndQuery_fragment hslash hhash hu htail
    rw [hcs, List.cons_append] at hparts hpath
    exact ⟨_, parse_of_schemed hlength ⟨hparts, hchars⟩ hshort (hread _) hne hpath, rfl⟩

/-- Only path and query decide: whichever way a target is spelled, the request gets the same
answer, and leaves the same on the console and in the log. -/
theorem exchange_spelling {scheme authority p fragment uri : String}
    (hslash : p.toList.head? = some '/') (hhash : '#' ∉ p.toList)
    (hp : ∃ u, Uri.parse p = .ok u)
    (hscheme : IsScheme scheme) (hauthority : IsAuthority authority)
    (huri : uri ∈ spellings scheme authority p fragment)
    (hlength : uri.utf8ByteSize ≤ maxUriLength)
    (c : Catalog) (console : Console) (method : String) (headers : List (String × String))
    (body : String) :
    (∃ u, Uri.parse uri = .ok u ∧ u.target = p) ∧
      exchange c console ⟨method, uri, headers, body⟩
        = exchange c console ⟨method, p, headers, body⟩ := by
  obtain ⟨u, hu⟩ := hp
  have hplain := parse_spelling hslash hhash hu hscheme hauthority
    (List.mem_cons_self : p ∈ spellings scheme authority p fragment) (utf8ByteSize_le_of_parse hu)
  have hspelled := parse_spelling hslash hhash hu hscheme hauthority huri hlength
  refine ⟨hspelled, ?_⟩
  cases hmethod : Method.ofString? method with
  | none =>
      have hrejected : ∀ {uri'}, (⟨method, uri', headers, body⟩ : Request).resolve
          = .error .invalidMethod := by
        intro uri'
        rw [Request.resolve, hmethod]
      rw [exchange_of_rejected hrejected, exchange_of_rejected hrejected]
  | some m =>
      rw [exchange_of_resolve (resolve_eq_ok_iff.mpr ⟨hmethod, hspelled⟩),
        exchange_of_resolve (resolve_eq_ok_iff.mpr ⟨hmethod, hplain⟩)]

/-- User information with a percent sign, a bracketed host and a port in front, and a fragment with
line feeds and another hash behind. -/
theorem exchange_spelling_far :
    (∃ u, Uri.parse "HTTPs://me%20:pw@[::1]:8080/é?json-1#\n# \n" = .ok u ∧
        u.target = "/é?json-1") ∧
      exchange .builtIn (.empty .poisoned)
          ⟨"GET", "HTTPs://me%20:pw@[::1]:8080/é?json-1#\n# \n", [], ""⟩
        = exchange .builtIn (.empty .poisoned) ⟨"GET", "/é?json-1", [], ""⟩ := by
  have hp : Uri.parse "/é?json-1" = .ok ⟨none, none, some "/é?json-1"⟩ := by rfl
  have hscheme : IsScheme "HTTPs" :=
    ⟨"HTTPs://h", ⟨some "HTTPs", some "h", some "/"⟩, by rfl, rfl⟩
  have hauthority : IsAuthority "me%20:pw@[::1]:8080" :=
    ⟨"me%20:pw@[::1]:8080", ⟨none, some "me%20:pw@[::1]:8080", none⟩, by rfl, rfl⟩
  have huri : "HTTPs://me%20:pw@[::1]:8080/é?json-1#\n# \n"
      ∈ spellings "HTTPs" "me%20:pw@[::1]:8080" "/é?json-1" "\n# \n" := by
    simp [spellings]
  exact exchange_spelling rfl (by decide) ⟨_, hp⟩ hscheme hauthority huri (by decide) .builtIn
    (.empty .poisoned) "GET" [] ""

end StubHttp
