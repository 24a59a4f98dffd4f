import StubHttp.Proofs.CommandLine.PortNumber

/-!
# Settings and their spellings

What the options of `serve` are set to does not depend on how they are spelt
(`Setting.spellings`) or on their order: words that set no option twice come to
the options that have just these settings, and the others as they are by
default. Words that set an option twice come to an error, however the two
settings are spelt and whatever stands between them (`parse_settings`).
-/

namespace StubHttp.CommandLine

/-- What one option of `serve` is set to. -/
inductive Setting where
  | host (host : String)
  | port (port : UInt16)

namespace Setting

def option : Setting → Opt
  | .host _ => .host
  | .port _ => .port

/-- The value as it is written. -/
def text : Setting → String
  | .host h => h
  | .port n => toString n.toNat

/-- The words that make a setting, in all the ways there are. -/
def spellings : Setting → List (List String)
  | .host h => [["--host", h], ["--host=" ++ h]]
  | .port n =>
    let digits := toString n.toNat
    [["--port", digits], ["--port=" ++ digits], ["-p", digits], ["-p" ++ digits], ["-p=" ++ digits]]

/-- The options with this setting among them. -/
def apply (s : Setting) (options : ServeOptions) : ServeOptions :=
  match s with
  | .host h => { options with host := h }
  | .port n => { options with port := n }

end Setting

/-- What an option is set to. -/
def ServeOptions.setting (options : ServeOptions) : Opt → Setting
  | .host => .host options.host
  | .port => .port options.port

/-! ## Spellings -/

/-- Digits begin neither an option nor a value behind an equals sign. -/
theorem head?_toString_ne (n : Nat) {c : Char} (hc : c.isDigit = false) :
    (toString n).toList.head? ≠ some c := by
  rw [Nat.toString_eq_ofList_toDigits, String.toList_ofList]
  intro hhead
  have hdigit := (decimal_toDigits n).isDigit c (List.mem_of_mem_head? hhead)
  rw [hc] at hdigit
  cases hdigit

theorem toString_ne_empty (n : Nat) : toString n ≠ "" := by
  intro h
  have hnil := congrArg String.toList h
  rw [Nat.toString_eq_ofList_toDigits, String.toList_ofList] at hnil
  exact (decimal_toDigits n).ne_nil hnil

theorem attached_eq (value : String) :
    "-p" ++ value = String.ofList ('-' :: 'p' :: value.toList) := by
  simp [← String.toList_inj]

theorem assigned_eq (value : String) :
    "-p=" ++ value = String.ofList ('-' :: 'p' :: '=' :: value.toList) := by
  simp [← String.toList_inj]

theorem Setting.written_of_mem_spellings {s : Setting} {ws : List String} (h : ws ∈ s.spellings)
    (hhost : ∀ host, s = .host host → host.toList.head? ≠ some '-') :
    s.option.Written s.text ws := by
  cases s with
  | host host =>
      have hs := hhost host rfl
      have hname : "--" ++ Opt.host.long ++ "=" = "--host=" := by decide
      simp only [spellings, List.mem_cons, List.not_mem_nil, or_false] at h
      rcases h with rfl | rfl
      · exact .nameBehind hs
      · exact hname ▸ .nameAssigned
  | port n =>
      have hs := head?_toString_ne n.toNat (c := '-') rfl
      have hname : "--" ++ Opt.port.long ++ "=" = "--port=" := by decide
      simp only [spellings, List.mem_cons, List.not_mem_nil, or_false] at h
      rcases h with rfl | rfl | rfl | rfl | rfl
      · exact .nameBehind hs
      · exact hname ▸ .nameAssigned
      · exact .letterBehind rfl hs
      · rw [attached_eq]
        exact .letterAttached rfl (toString_ne_empty _) (head?_toString_ne _ rfl)
      · rw [assigned_eq]
        exact .letterAssigned rfl

theorem forall₂_written {settings : List Setting} {words : List (List String)}
    (h : List.Forall₂ (fun s ws => ws ∈ s.spellings) settings words)
    (hhosts : ∀ host, .host host ∈ settings → host.toList.head? ≠ some '-') :
    List.Forall₂ (fun s ws => s.1.Written s.2 ws) (settings.map fun s => (s.option, s.text))
      words := by
  induction h with
  | nil => exact .nil
  | cons hws _ ih =>
      refine .cons (Setting.written_of_mem_spellings hws ?_) (ih fun host hhost => ?_)
      · rintro host rfl
        exact hhosts host List.mem_cons_self
      · exact hhosts host (List.mem_cons_of_mem _ hhost)

/-! ## Taking settings in order -/

namespace Progress

theorem assign_setting (p : Progress) (s : Setting) : p.assign .serve s.option s.text =
    if s.option ∈ p.given then .error (.invalid (.repeatedOption .serve s.option))
    else .ok { p with given := p.given ++ [s.option], options := s.apply p.options } := by
  by_cases h : s.option ∈ p.given
  · rw [if_pos h]
    unfold assign
    rw [if_pos h]
  · rw [if_neg h]
    cases s with
    | host host =>
        unfold assign
        rw [if_neg h]
        rfl
    | port n =>
        show p.assign .serve .port (toString n.toNat) = _
        rw [assign_port .serve h, portNumber_toString]
        rfl

/-- Settings of different options are all made. -/
theorem assignAll_of_nodup {settings : List Setting} {p : Progress}
    (h : (p.given ++ settings.map Setting.option).Nodup) :
    p.assignAll (settings.map fun s => (s.option, s.text)) =
      .ok { p with given := p.given ++ settings.map Setting.option,
                   options := settings.foldl (fun options s => s.apply options) p.options } := by
  induction settings generalizing p with
  | nil =>
      rw [List.map_nil, List.map_nil, List.append_nil]
      rfl
  | cons s settings ih =>
      rw [List.map_cons, List.append_cons] at h
      have hs : s.option ∉ p.given := fun hs => by
        have hgiven := (List.nodup_append.mp h).1
        exact (List.nodup_append.mp hgiven).2.2 _ hs _ List.mem_cons_self rfl
      rw [List.map_cons, assignAll_cons, assign_setting, if_neg hs, ok_bind, ih h]
      simp only [List.map_cons, List.append_assoc, List.singleton_append, List.foldl_cons]

/-- The first option that is set again is reported. -/
theorem assignAll_of_not_nodup {settings : List Setting} {p : Progress} (hp : p.given.Nodup)
    (h : ¬ (p.given ++ settings.map Setting.option).Nodup) :
    ∃ o, 1 < (p.given ++ settings.map Setting.option).count o ∧
      p.assignAll (settings.map fun s => (s.option, s.text))
        = .error (.invalid (.repeatedOption .serve o)) := by
  induction settings generalizing p with
  | nil => exact absurd (by simpa using hp) h
  | cons s settings ih =>
      rw [List.map_cons, List.append_cons] at h ⊢
      rw [List.map_cons, assignAll_cons, assign_setting]
      by_cases hs : s.option ∈ p.given
      · have hgiven : 0 < p.given.count s.option := List.count_pos_iff.mpr hs
        refine ⟨s.option, ?_, ?_⟩
        · rw [List.count_append, List.count_append, List.count_singleton_self]
          omega
        · rw [if_pos hs]
          rfl
      · rw [if_neg hs, ok_bind]
        have hgiven : (p.given ++ [s.option]).Nodup := by
          refine List.nodup_append.mpr ⟨hp, List.pairwise_singleton _ _, fun o ho o' ho' heq => hs ?_⟩
          rw [← List.mem_singleton.mp ho', ← heq]
          exact ho
        exact ih (p := { p with given := p.given ++ [s.option], options := s.apply p.options })
          hgiven h

end Progress

/-! ## What is set in the end -/

theorem setting_apply (s : Setting) (options : ServeOptions) (o : Opt) :
    (s.apply options).setting o = if s.option = o then s else options.setting o := by
  cases s <;> cases o <;> rfl

theorem setting_foldl_of_not_mem {settings : List Setting} {o : Opt}
    (h : o ∉ settings.map Setting.option) (options : ServeOptions) :
    (settings.foldl (fun options s => s.apply options) options).setting o = options.setting o := by
  induction settings generalizing options with
  | nil => rfl
  | cons s settings ih =>
      rw [List.map_cons, List.mem_cons, not_or] at h
      rw [List.foldl_cons, ih h.2, setting_apply, if_neg (Ne.symm h.1)]

theorem setting_foldl_of_mem {settings : List Setting} {s : Setting}
    (h : (settings.map Setting.option).Nodup) (hs : s ∈ settings) (options : ServeOptions) :
    (settings.foldl (fun options s => s.apply options) options).setting s.option = s := by
  induction settings generalizing options with
  | nil => cases hs
  | cons t settings ih =>
      obtain ⟨ht, hrest⟩ := List.nodup_cons.mp h
      rw [List.foldl_cons]
      rcases List.mem_cons.mp hs with rfl | hs
      · rw [setting_foldl_of_not_mem ht, setting_apply, if_pos rfl]
      · exact ih hrest hs _

/-- Settings that are spelt in any way and order are the options that `serve` gets, and where
there is none the default; an option that is set again is an error. -/
theorem parse_settings {settings : List Setting} {words : List (List String)}
    (hwords : List.Forall₂ (fun s ws => ws ∈ s.spellings) settings words)
    (hhosts : ∀ host, .host host ∈ settings → host.toList.head? ≠ some '-') :
    ((settings.map Setting.option).Nodup → ∃ options,
      parse ("serve" :: words.flatten) = .ok (.serve options) ∧
      (∀ host, .host host ∈ settings → options.host = host) ∧
      (∀ port, .port port ∈ settings → options.port = port) ∧
      ((∀ host, .host host ∉ settings) → options.host = "0.0.0.0") ∧
      ((∀ port, .port port ∉ settings) → options.port = 52001)) ∧
    (¬ (settings.map Setting.option).Nodup → ∃ o, 1 < (settings.map Setting.option).count o ∧
      parse ("serve" :: words.flatten) = .error (.invalid (.repeatedOption .serve o))) := by
  rw [parse_of_written (forall₂_written hwords hhosts)]
  constructor
  · intro hnodup
    have hset := fun {s} (hs : s ∈ settings) => setting_foldl_of_mem hnodup hs .default
    have hunset := fun {o} (ho : o ∉ settings.map Setting.option) =>
      setting_foldl_of_not_mem ho .default
    rw [Progress.assignAll_of_nodup (by simpa [Progress.start] using hnodup)]
    refine ⟨_, rfl, ?_, ?_, ?_, ?_⟩
    · intro host hhost
      exact Setting.host.inj (hset hhost)
    · intro port hport
      exact Setting.port.inj (hset hport)
    · intro hnone
      refine Setting.host.inj (hunset (o := .host) fun hmem => ?_)
      obtain ⟨s, hs, hoption⟩ := List.mem_map.mp hmem
      cases s with
      | host host => exact hnone host hs
      | port port => cases hoption
    · intro hnone
      refine Setting.port.inj (hunset (o := .port) fun hmem => ?_)
      obtain ⟨s, hs, hoption⟩ := List.mem_map.mp hmem
      cases s with
      | host host => cases hoption
      | port port => exact hnone port hs
  · intro hrepeated
    obtain ⟨o, hcount, herror⟩ := Progress.assignAll_of_not_nodup (p := .start)
      List.nodup_nil hrepeated
    exact ⟨o, hcount, by rw [herror]; rfl⟩

/-- A host that looks like a command with a value behind it, and a host given twice around the
port. -/
theorem parse_settings_around_port :
    parse ["serve", "-p=8080", "--host", "routes=x"] = .ok (.serve ⟨"routes=x", 8080⟩) ∧
    ∃ o, parse ["serve", "--host", "serve", "-p80", "--host=::"]
      = .error (.invalid (.repeatedOption .serve o)) := by
  constructor
  · have hwords : List.Forall₂ (fun s ws => ws ∈ Setting.spellings s)
        [.port 8080, .host "routes=x"] [["-p=8080"], ["--host", "routes=x"]] :=
      .cons (by decide) (.cons (by decide) .nil)
    obtain ⟨hset, -⟩ := parse_settings hwords (by simp)
    obtain ⟨⟨host, port⟩, hparse, hhost, hport, -⟩ := hset (by decide)
    obtain rfl := hhost "routes=x" (by simp)
    obtain rfl := hport 8080 (by simp)
    exact hparse
  · have hwords : List.Forall₂ (fun s ws => ws ∈ Setting.spellings s)
        [.host "serve", .port 80, .host "::"] [["--host", "serve"], ["-p80"], ["--host=::"]] :=
      .cons (by decide) (.cons (by decide) (.cons (by decide) .nil))
    obtain ⟨-, hrepeated⟩ := parse_settings hwords (by simp)
    obtain ⟨o, -, hparse⟩ := hrepeated (by decide)
    exact ⟨o, hparse⟩

end StubHttp.CommandLine
