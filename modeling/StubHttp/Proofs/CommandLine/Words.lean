import Mathlib.Data.List.Forall2
import Mathlib.Data.List.TakeWhile
import StubHttp.CommandLine.Parse
import StubHttp.Proofs.Outcome

/-!
# Options and the words they are written in

An option of `serve` may stand in one word with its value or in two, behind two
dashes with its name or behind one with its letter (`Opt.Written`). A value in
a word of its own stays pending until the next option comes or the words are
over, but nothing happens in between: words that begin with an option settle
what is pending before anything else (`SettlesFirst`). So the words come to the
same as the options in them with their values, taken in order
(`words_of_written`, `parse_of_written`).
-/

namespace StubHttp.CommandLine

/-! ## The forms of words -/

namespace Word

theorem ofString_plain {s : String} (h : s.toList.head? ≠ some '-') : ofString s = .plain s := by
  unfold ofString
  split
  · next heq => exact absurd (by rw [heq]; rfl) h
  · next heq => exact absurd (by rw [heq]; rfl) h
  · next heq => exact absurd (by rw [heq]; rfl) h
  · rfl

theorem ofString_eq_dashes_iff {w : String} : ofString w = .dashes ↔ w = "--" := by
  constructor
  · intro h
    rw [ofString] at h
    split at h
    · next hdashes => exact String.toList_inj.mp hdashes
    all_goals cases h
  · rintro rfl
    rfl

/-- Two dashes and anything behind them. -/
theorem ofString_dashes {s : String} {cs : List Char} (hne : cs ≠ [])
    (hs : s.toList = '-' :: '-' :: cs) : ofString s =
      .long (String.ofList (cs.takeWhile (· ≠ '=')))
        (match cs.drop (cs.takeWhile (· ≠ '=')).length with
        | _ :: value => some (String.ofList value)
        | [] => none) := by
  obtain ⟨c, cs, rfl⟩ := List.exists_cons_of_ne_nil hne
  unfold ofString
  rw [hs]
  rfl

theorem ofString_name {name : String} (hne : name ≠ "") (hname : '=' ∉ name.toList) :
    ofString ("--" ++ name) = .long name none := by
  have hs : ("--" ++ name).toList = '-' :: '-' :: name.toList := by
    rw [String.toList_append]; rfl
  have htake : name.toList.takeWhile (· ≠ '=') = name.toList :=
    List.takeWhile_eq_self_iff.mpr fun c hc => decide_eq_true fun heq => hname (heq ▸ hc)
  rw [ofString_dashes (by simpa using hne) hs, htake, List.drop_length, String.ofList_toList]

theorem ofString_assigned {name : String} (hname : '=' ∉ name.toList) (value : String) :
    ofString ("--" ++ name ++ "=" ++ value) = .long name (some value) := by
  have hs : ("--" ++ name ++ "=" ++ value).toList
      = '-' :: '-' :: (name.toList ++ '=' :: value.toList) := by
    simp [String.toList_append]
  have htake : (name.toList ++ '=' :: value.toList).takeWhile (· ≠ '=') = name.toList := by
    have hbefore : ∀ c ∈ name.toList, decide (c ≠ '=') = true := fun c hc =>
      decide_eq_true fun heq => hname (heq ▸ hc)
    rw [List.takeWhile_append_of_pos hbefore, List.takeWhile_cons_of_neg (by simp), List.append_nil]
  rw [ofString_dashes (by simp) hs, htake, List.drop_left, String.ofList_toList]
  dsimp only
  rw [String.ofList_toList]

theorem ofString_letters {c : Char} (hc : c ≠ '-') (cs : List Char) :
    ofString (String.ofList ('-' :: c :: cs)) = .short (c :: cs) := by
  unfold ofString
  rw [String.toList_ofList]
  split
  · next heq => simp_all
  · next heq => simp_all
  · next heq => simp_all
  · next h => exact absurd rfl (h _ _)

end Word

/-! ## Options in words -/

/-- The words that give an option of `serve` a value. -/
inductive Opt.Written (o : Opt) (value : String) : List String → Prop
  | nameBehind : value.toList.head? ≠ some '-' → Written o value ["--" ++ o.long, value]
  | nameAssigned : Written o value ["--" ++ o.long ++ "=" ++ value]
  | letterBehind {c : Char} : o.short? = some c → value.toList.head? ≠ some '-' →
      Written o value [String.ofList ['-', c], value]
  | letterAttached {c : Char} : o.short? = some c → value ≠ "" →
      value.toList.head? ≠ some '=' → Written o value [String.ofList ('-' :: c :: value.toList)]
  | letterAssigned {c : Char} : o.short? = some c →
      Written o value [String.ofList ('-' :: c :: '=' :: value.toList)]

theorem Opt.long_ne_empty (o : Opt) : o.long ≠ "" := by
  cases o <;> decide

theorem Opt.assign_not_mem_long (o : Opt) : '=' ∉ o.long.toList := by
  cases o <;> decide

theorem Opt.short?_ne_dash {o : Opt} {c : Char} (h : o.short? = some c) : c ≠ '-' := by
  cases o with
  | host => cases h
  | port => obtain rfl := Option.some.inj h; decide

theorem find?_long (o : Opt) : Topic.serve.options.find? (·.long = o.long) = some o := by
  cases o <;> decide

theorem find?_short {o : Opt} {c : Char} (h : o.short? = some c) :
    Topic.serve.options.find? (·.short? = some c) = some o := by
  cases o with
  | host => cases h
  | port => obtain rfl := Option.some.inj h; decide

namespace Progress

/-! ## What is pending -/

variable {p q : Progress} {o : Opt} {value : String}

theorem settle_of_pending_eq_none (topic : Topic) (h : p.pending = none) :
    p.settle topic = .ok p := by
  rw [settle, h]

theorem pending_of_assign {topic : Topic} (h : p.assign topic o value = .ok q) :
    q.pending = p.pending := by
  unfold assign at h
  split at h
  · cases h
  · cases o with
    | host => obtain rfl := Except.ok.inj h; rfl
    | port =>
        dsimp only at h
        split at h
        · obtain rfl := Except.ok.inj h; rfl
        · cases h

theorem pending_of_settle {topic : Topic} (h : p.settle topic = .ok q) : q.pending = none := by
  rw [settle] at h
  split at h
  · next hpending => obtain rfl := Except.ok.inj h; exact hpending
  · cases h
  · exact pending_of_assign h

/-- What is settled once is settled. -/
theorem settle_bind_settle {α : Type} (p : Progress) (topic : Topic)
    (f : Progress → Except Stop α) :
    (p.settle topic >>= fun q => q.settle topic >>= f) = p.settle topic >>= f := by
  cases hp : p.settle topic with
  | error e => rfl
  | ok q => rw [ok_bind, ok_bind, settle_of_pending_eq_none topic (pending_of_settle hp), ok_bind]

/-- Words before which everything that is pending may be settled. -/
def SettlesFirst (words : List String) : Prop :=
  ∀ p : Progress, p.words .serve words = p.settle .serve >>= fun q => q.words .serve words

theorem settlesFirst_nil : SettlesFirst [] := by
  intro p
  rw [words]
  cases hp : p.settle .serve with
  | error e => rfl
  | ok q => rw [ok_bind, words, settle_of_pending_eq_none .serve (pending_of_settle hp)]

/-! ## One option -/

section
variable {w : String} {rest : List String}

theorem words_of_long {name : String} {value : Option String}
    (hw : Word.ofString w = .long name value) : p.words .serve (w :: rest)
      = p.long .serve name value rest >>= fun q => q.words .serve rest := by
  rw [words.eq_def]
  dsimp only
  rw [hw]

theorem words_of_short {letters : List Char} (hw : Word.ofString w = .short letters) :
    p.words .serve (w :: rest)
      = p.short .serve letters >>= fun q => q.words .serve rest := by
  rw [words.eq_def]
  dsimp only
  rw [hw]

/-- A plain word is the value that the pending option waits for. -/
theorem words_of_value (hw : Word.ofString w = .plain w)
    (hp : p.pending = some (o, none)) : p.words .serve (w :: rest)
      = { p with pending := some (o, some w) }.words .serve rest := by
  rw [words.eq_def]
  dsimp only
  rw [hw, hp]

theorem long_eq_take (p : Progress) (o : Opt) (value : Option String) (rest : List String) :
    p.long .serve o.long value rest = p.take .serve o value := by
  unfold long
  rw [find?_long]

theorem short_eq_take {c : Char} (hc : o.short? = some c) (p : Progress) :
    p.short .serve [c] = p.take .serve o none := by
  rw [short, find?_short hc]

theorem short_assigned_eq_take {c : Char} (hc : o.short? = some c) (p : Progress)
    (cs : List Char) :
    p.short .serve (c :: '=' :: cs) = p.take .serve o (some (String.ofList cs)) := by
  rw [short, find?_short hc]
  rfl

theorem short_attached_eq_take {c : Char} (hc : o.short? = some c) (p : Progress)
    {cs : List Char} (hne : cs ≠ []) (hcs : cs.head? ≠ some '=') :
    p.short .serve (c :: cs) = p.take .serve o (some (String.ofList cs)) := by
  obtain ⟨d, cs, rfl⟩ := List.exists_cons_of_ne_nil hne
  rw [short, find?_short hc]
  dsimp only
  split
  · next heq => cases heq
  · next heq => obtain ⟨rfl, -⟩ := List.cons.inj heq; exact absurd rfl hcs
  · rfl

/-- An option whose value stands in the same word. -/
theorem words_attached (htake : ∀ p : Progress, p.words .serve (w :: rest)
      = p.take .serve o (some value) >>= fun q => q.words .serve rest) (p : Progress) :
    p.words .serve ([w] ++ rest) = p.settle .serve >>= fun q =>
      q.assign .serve o value >>= fun q => q.words .serve rest := by
  rw [List.singleton_append, htake, take, bind_assoc]

/-- An option whose value stands in the word behind it. -/
theorem words_behind (htake : ∀ p : Progress, p.words .serve (w :: value :: rest)
      = p.take .serve o none >>= fun q => q.words .serve (value :: rest))
    (hvalue : value.toList.head? ≠ some '-') (hrest : SettlesFirst rest) (p : Progress) :
    p.words .serve ([w, value] ++ rest) = p.settle .serve >>= fun q =>
      q.assign .serve o value >>= fun q => q.words .serve rest := by
  rw [List.cons_append, List.singleton_append, htake, take, bind_assoc]
  cases hp : p.settle .serve with
  | error e => rfl
  | ok q =>
      show words { q with pending := some (o, none) } .serve (value :: rest) = _
      -- The option waits for its value, gets it, and is settled by whatever comes next.
      have hpending : q.pending = none := pending_of_settle hp
      have hq : { q with pending := none } = q := by rw [← hpending]
      rw [words_of_value (Word.ofString_plain hvalue) rfl, hrest, settle]
      dsimp only
      rw [hq]
      rfl

end

/-- Words that give an option its value do so once everything before is settled. -/
theorem words_of_written {ws rest : List String} (hws : o.Written value ws)
    (hrest : SettlesFirst rest) (p : Progress) :
    p.words .serve (ws ++ rest) = p.settle .serve >>= fun q =>
      q.assign .serve o value >>= fun q => q.words .serve rest := by
  cases hws with
  | nameBehind hvalue =>
      refine words_behind (fun p => ?_) hvalue hrest p
      rw [words_of_long (Word.ofString_name o.long_ne_empty o.assign_not_mem_long), long_eq_take]
  | nameAssigned =>
      refine words_attached (fun p => ?_) p
      rw [words_of_long (Word.ofString_assigned o.assign_not_mem_long value), long_eq_take]
  | letterBehind hc hvalue =>
      refine words_behind (fun p => ?_) hvalue hrest p
      rw [words_of_short (Word.ofString_letters (Opt.short?_ne_dash hc) []), short_eq_take hc]
  | letterAttached hc hne hvalue =>
      refine words_attached (fun p => ?_) p
      rw [words_of_short (Word.ofString_letters (Opt.short?_ne_dash hc) _),
        short_attached_eq_take hc p (by simpa using hne) hvalue, String.ofList_toList]
  | letterAssigned hc =>
      refine words_attached (fun p => ?_) p
      rw [words_of_short (Word.ofString_letters (Opt.short?_ne_dash hc) _),
        short_assigned_eq_take hc, String.ofList_toList]

theorem settlesFirst_of_written {ws rest : List String} (hws : o.Written value ws)
    (hrest : SettlesFirst rest) : SettlesFirst (ws ++ rest) := by
  intro p
  have hwords := words_of_written hws hrest
  calc p.words .serve (ws ++ rest)
      = p.settle .serve >>= fun q => q.assign .serve o value >>= fun q => q.words .serve rest :=
        hwords p
    _ = p.settle .serve >>= fun q => q.settle .serve >>= fun q =>
          q.assign .serve o value >>= fun q => q.words .serve rest :=
        (settle_bind_settle p .serve _).symm
    _ = p.settle .serve >>= fun q => q.words .serve (ws ++ rest) :=
        bind_congr fun q => (hwords q).symm

/-! ## All options -/

/-- Options with their values, taken in order. -/
def assignAll (p : Progress) (settings : List (Opt × String)) : Except Stop Progress :=
  settings.foldlM (fun p s => p.assign .serve s.1 s.2) p

theorem assignAll_cons (p : Progress) (s : Opt × String) (settings : List (Opt × String)) :
    p.assignAll (s :: settings)
      = p.assign .serve s.1 s.2 >>= fun q => q.assignAll settings :=
  List.foldlM_cons

theorem settlesFirst_flatten {settings : List (Opt × String)} {words : List (List String)}
    (h : List.Forall₂ (fun s ws => s.1.Written s.2 ws) settings words) :
    SettlesFirst words.flatten := by
  induction h with
  | nil => exact settlesFirst_nil
  | cons hws _ ih =>
      rw [List.flatten_cons]
      exact settlesFirst_of_written hws ih

theorem words_flatten {settings : List (Opt × String)} {words : List (List String)}
    (h : List.Forall₂ (fun s ws => s.1.Written s.2 ws) settings words) (hp : p.pending = none) :
    p.words .serve words.flatten = p.assignAll settings := by
  induction h generalizing p with
  | nil => exact settle_of_pending_eq_none .serve hp
  | @cons s ws settings words hws hrest ih =>
      rw [List.flatten_cons, words_of_written hws (settlesFirst_flatten hrest),
        settle_of_pending_eq_none .serve hp, ok_bind, assignAll_cons]
      cases hq : p.assign .serve s.1 s.2 with
      | error e => rfl
      | ok q => exact ih ((pending_of_assign hq).trans hp)

end Progress

/-- The words behind `serve` come to the options that they are written for, in their order. -/
theorem parse_of_written {settings : List (Opt × String)} {words : List (List String)}
    (h : List.Forall₂ (fun s ws => s.1.Written s.2 ws) settings words) :
    parse ("serve" :: words.flatten)
      = (Progress.start.assignAll settings).map fun p => .serve p.options := by
  have hparse : parse ("serve" :: words.flatten)
      = Progress.start.words .serve words.flatten >>= fun p => .ok (.serve p.options) := rfl
  rw [hparse, Progress.words_flatten h rfl]
  cases Progress.start.assignAll settings <;> rfl

end StubHttp.CommandLine
