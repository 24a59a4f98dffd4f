import StubHttp.Json.Reader
import StubHttp.Proofs.Json.Brackets
import StubHttp.Proofs.Json.Printer

/-!
# Gathering items

Reading a list and reading an object are one loop (`gatherWithin`) with another
reader in each place. Nothing comes out of it that has not been read
(`forall_of_gatherWithin`). The other way round, the items of a bracketed text
are read one by one, and the first problem with one of them is the problem with
all (`gatherWithin_append`); what has to be known of an item for that does not
depend on where it stands (`Gathers`).

A reader of values is described by what it makes of a text, blanks in front of
it allowed (`Reads`). That is enough for it to be used in a list and in an
object (`gathers_item`, `gathers_member`).
-/

namespace StubHttp.Json

variable {α β : Type}

/-- Gathers items up to their bracket, whatever they are and whatever separates them. -/
def gatherWithin (atEnd : Problem) (next : Bool → List Char → Attempt (Option (List Char)))
    (one : List Char → Attempt (α × List Char)) :
    List Char → Bool → List Char → Attempt (List α × List Char)
  | [], _, _ => .error (.here atEnd [])
  | _ :: bound, first, cs => do
    match ← next first cs with
    | none => return ([], afterClose cs)
    | some item =>
      let (x, rest) ← one item
      let (xs, left) ← gatherWithin atEnd next one bound false rest
      return (x :: xs, left)

theorem itemsWithin_eq (item : List Char → Attempt (α × List Char)) :
    ∀ (bound : List Char) (first : Bool) (cs : List Char),
      itemsWithin item bound first cs = gatherWithin .endInList item? item bound first cs
  | [], _, _ => rfl
  | _ :: bound, first, cs => by
      rw [itemsWithin, gatherWithin]
      refine bind_congr fun found => ?_
      cases found with
      | none => rfl
      | some text =>
          refine bind_congr fun read => ?_
          dsimp only
          rw [itemsWithin_eq item bound false read.2]

/-- A member, the quote of its name already read. -/
def memberWith (value : List Char → Attempt (α × List Char)) (cs : List Char) :
    Attempt ((String × α) × List Char) := do
  let (key, afterKey) ← string cs
  let (v, rest) ← value (← colon afterKey)
  return ((String.ofList key, v), rest)

theorem membersWithin_eq (value : List Char → Attempt (α × List Char)) :
    ∀ (bound : List Char) (first : Bool) (cs : List Char),
      membersWithin value bound first cs
        = gatherWithin .endInObject member? (memberWith value) bound first cs
  | [], _, _ => rfl
  | _ :: bound, first, cs => by
      rw [membersWithin, gatherWithin]
      refine bind_congr fun found => ?_
      cases found with
      | none => rfl
      | some name =>
          dsimp only
          rw [memberWith, bind_assoc]
          refine bind_congr fun key => ?_
          rw [bind_assoc]
          refine bind_congr fun text => ?_
          rw [bind_assoc]
          refine bind_congr fun read => ?_
          dsimp only
          rw [pure_bind, membersWithin_eq value bound false read.2]

/-! ## What is gathered -/

section
variable {atEnd : Problem} {next : Bool → List Char → Attempt (Option (List Char))}
  {one : List Char → Attempt (α × List Char)}

/-- Nothing is gathered that has not been read. -/
theorem forall_of_gatherWithin {P : α → Prop}
    (hone : ∀ {cs x rest}, one cs = .ok (x, rest) → P x) :
    ∀ {bound : List Char} {first : Bool} {cs : List Char} {xs : List α} {rest : List Char},
      gatherWithin atEnd next one bound first cs = .ok (xs, rest) → ∀ x ∈ xs, P x
  | [], _, _, _, _, h => by cases h
  | _ :: bound, first, cs, xs, rest, h => by
      rw [gatherWithin] at h
      obtain ⟨found, -, h⟩ := bind_eq_ok_iff.mp h
      cases found with
      | none =>
          obtain ⟨rfl, -⟩ := Prod.mk.inj (pure_eq_ok_iff.mp h)
          exact nofun
      | some text =>
          obtain ⟨⟨x, left⟩, hread, h⟩ := bind_eq_ok_iff.mp h
          obtain ⟨⟨xs', left'⟩, hrest, h⟩ := bind_eq_ok_iff.mp h
          obtain ⟨rfl, -⟩ := Prod.mk.inj (pure_eq_ok_iff.mp h)
          exact List.forall_mem_cons.mpr ⟨hone hread, forall_of_gatherWithin hone hrest⟩

/-- What is made of an item, whatever is in front of it and whatever comes behind: a result, and
the item is taken as far as it goes, or a problem. -/
structure Gathers (next : Bool → List Char → Attempt (Option (List Char)))
    (one : List Char → Attempt (α × List Char)) (text : List Char) (r : Except Problem α) : Prop
    where
  length_pos : 0 < text.length
  reads {first : Bool} {lead rest : List Char} : Lead first lead → EndsNumber rest →
    ∃ cs, next first (lead ++ text ++ rest) = .ok (some cs) ∧
      (one cs).mapError Fault.problem = r.map (·, rest)

/-- The items of a text come out one by one, until there is a problem with one of them. -/
theorem gatherWithin_append {close : Char} (hclose : IsClose close)
    (hnone : ∀ {first : Bool} {b rest : List Char}, Blank b →
      next first (b ++ close :: rest) = .ok none)
    {f : β → Except Problem α} {first : Bool} {t : List Char} {texts : List (List Char)}
    (ht : Items close first t texts) :
    ∀ {bs : List β} {bound : List Char} (rest : List Char),
      List.Forall₂ (fun text b => Gathers next one text (f b)) texts bs →
      t.length ≤ bound.length →
      (gatherWithin atEnd next one bound first (t ++ rest)).mapError Fault.problem
        = (bs.mapM f).map (·, rest) := by
  induction ht with
  | @close first b hb =>
      intro bs bound rest hbs hbound
      cases hbs
      have hitems : Items close first (b ++ [close]) [] := .close hb
      obtain ⟨_, bound, rfl⟩ := List.exists_cons_of_length_pos (hitems.length_pos.trans_le hbound)
      rw [List.append_assoc, List.singleton_append, gatherWithin, hnone hb, ok_bind]
      dsimp only
      rw [afterClose_append hb hclose]
      rfl
  | @item first lead text left texts hlead hleft ih =>
      intro bs bound rest hbs hbound
      obtain _ | ⟨hone, hbs⟩ := hbs
      next b bs =>
      obtain ⟨_, bound, rfl⟩ :=
        List.exists_cons_of_length_pos ((Items.item hlead hleft).length_pos.trans_le hbound)
      obtain ⟨cs, hnext, hread⟩ := hone.reads hlead (hleft.endsNumber hclose rest)
      have hlength : left.length ≤ bound.length := by
        have hpos := hone.length_pos
        simp only [List.length_append, List.length_cons] at hbound
        omega
      have hrest := ih rest hbs hlength
      rw [List.append_assoc, gatherWithin, hnext, ok_bind, List.mapM_cons]
      dsimp only
      -- A problem with this item is the problem with all of them; else it is up to the rest.
      rw [mapError_bind, hread]
      cases hb : f b with
      | error e => rfl
      | ok a =>
          show (gatherWithin atEnd next one bound false (left ++ rest) >>= _).mapError _ = _
          rw [mapError_bind, hrest]
          cases hbs : bs.mapM f with
          | error e => rfl
          | ok as => rfl

end

/-! ## Items and members -/

/-- What a reader makes of a text, whatever blanks are in front of it and whatever comes behind. -/
def Reads (read : List Char → Attempt (α × List Char)) (text : List Char) (r : Except Problem α) :
    Prop :=
  ∀ b rest, Blank b → EndsNumber rest →
    (read (b ++ text ++ rest)).mapError Fault.problem = r.map (·, rest)

theorem gathers_item {item : List Char → Attempt (α × List Char)} {text : List Char}
    {r : Except Problem α} (hstarts : Starts text) (h : Reads item text r) :
    Gathers item? item text r where
  length_pos := hstarts.length_pos
  reads {first lead rest} hlead hrest := by
    obtain ⟨b, hb, hnext⟩ := item?_separator.complete hlead (hstarts.append rest)
    refine ⟨_, by rw [List.append_assoc, hnext], ?_⟩
    rw [← List.append_assoc]
    exact h b rest hb hrest

/-- A member with nothing between its name, the colon and its value. -/
theorem gathers_member {value : List Char → Attempt (α × List Char)} (name : String)
    {text : List Char} {r : Except Problem α} (h : Reads value text r) :
    Gathers member? (memberWith value) (quote name.toList ++ ':' :: text) (r.map (name, ·)) where
  length_pos := Nat.succ_pos _
  reads {first lead rest} hlead hrest := by
    have hname := spells_flatMap_escapeChar name.toList
    have hstring : string (name.toList.flatMap escapeChar ++ '"' :: (':' :: (text ++ rest)))
        = .ok (name.toList, ':' :: (text ++ rest)) := string_eq_ok_iff.mpr ⟨_, hname, rfl⟩
    have hcolon : colon (':' :: (text ++ rest)) = .ok (text ++ rest) :=
      colon_eq_ok_iff.mpr ⟨[], .nil, rfl⟩
    have hvalue : (value (text ++ rest)).mapError Fault.problem = r.map (·, rest) :=
      h [] rest .nil hrest
    refine ⟨name.toList.flatMap escapeChar ++ '"' :: (':' :: (text ++ rest)), ?_, ?_⟩
    · exact member?_eq_some_iff.mpr ⟨lead, hlead, by simp [quote]⟩
    · rw [memberWith, hstring, ok_bind]
      dsimp only
      rw [hcolon, ok_bind, mapError_bind, hvalue]
      cases r with
      | error e => rfl
      | ok a =>
          show Except.ok ((String.ofList name.toList, a), rest) = .ok ((name, a), rest)
          rw [String.ofList_toList]

end StubHttp.Json
