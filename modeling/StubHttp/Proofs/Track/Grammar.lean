import StubHttp.Track.Basic
import StubHttp.Proofs.Json.Grammar

/-!
# The language of lists of tracks

Which JSON texts are lists of tracks, and of which. An element is an object or
a list of two strings (`ElementText`), and it describes a track by its fields
(`Describes`). Of an object only the members matter that have the name of a
field; where they stand, and which others stand between them, makes no
difference (`Describes.of_similar`).
-/

namespace StubHttp.Track

open Json

/-- A member of an object, with its name spelt out. The value is still a text. -/
abbrev Member := String × List Char

/-- An element of a list of tracks, either of the two shapes it may have. -/
inductive Element where
  | object (members : List Member)
  | pair (artist title : List Char)

def NamedMember (t : List Char) (m : Member) : Prop :=
  ∃ written, MemberText t (written, m.2) ∧ Spells written m.1.toList

inductive ElementText : List Char → Element → Prop
  | object {t : List Char} {texts : List (List Char)} {members : List Member} :
      Bracketed '\x7b' '\x7d' t texts → List.Forall₂ NamedMember texts members →
      ElementText t (.object members)
  | pair {t artist title : List Char} : Bracketed '[' ']' t [artist, title] →
      ElementText t (.pair artist title)

/-- A whole text that is a list, and its elements. -/
def ElementsText (t : List Char) (elements : List Element) : Prop :=
  ∃ b list b' texts, Blank b ∧ Blank b' ∧ t = b ++ list ++ b' ∧ Bracketed '[' ']' list texts ∧
    List.Forall₂ ElementText texts elements

/-! ## What an element means -/

/-- Exactly one of the members has this name, and its value is this string. -/
def Gives (members : List Member) (name value : String) : Prop :=
  ∃ literal, members.filter (fun m => m.1 = name) = [(name, literal)] ∧
    StringLiteral literal value

/-- Whether a member has the name of a field. -/
def IsField (m : Member) : Prop :=
  m.1 = "artist" ∨ m.1 = "title"

instance (m : Member) : Decidable (IsField m) :=
  inferInstanceAs (Decidable (_ ∨ _))

/-- The track that an element describes. Members that are no field may have any value. -/
inductive Describes : Element → Track → Prop
  | object {members : List Member} {track : Track} : Gives members "artist" track.artist →
      Gives members "title" track.title → (∀ m ∈ members, ¬ IsField m → WellFormed m.2) →
      Describes (.object members) track
  | pair {artist title : List Char} {track : Track} : StringLiteral artist track.artist →
      StringLiteral title track.title → Describes (.pair artist title) track

/-! ## Members in another order, among others -/

/-- The second members have the fields of the first, in any order, and among them whatever is well
formed. -/
def SameFields (members members' : List Member) : Prop :=
  (members.filter IsField).Perm (members'.filter IsField) ∧
    ∀ m ∈ members', ¬ IsField m → WellFormed m.2

/-- Elements that differ at most in the order and the choice of their members. -/
inductive Similar : Element → Element → Prop
  | object {members members' : List Member} : SameFields members members' →
      Similar (.object members) (.object members')
  | pair {artist title : List Char} : Similar (.pair artist title) (.pair artist title)

theorem filter_isField {name : String} (hname : name = "artist" ∨ name = "title")
    (members : List Member) :
    (members.filter IsField).filter (fun m => m.1 = name)
      = members.filter (fun m => m.1 = name) := by
  rw [List.filter_filter]
  refine List.filter_congr fun m _ => ?_
  by_cases hm : m.1 = name
  · simpa [hm, IsField] using hname
  · simp [hm]

theorem Gives.of_sameFields {members members' : List Member} {name value : String}
    (h : Gives members name value) (hname : name = "artist" ∨ name = "title")
    (hsame : SameFields members members') : Gives members' name value := by
  obtain ⟨literal, hfilter, hliteral⟩ := h
  have hperm := hsame.1.filter fun m => m.1 = name
  rw [filter_isField hname, filter_isField hname, hfilter] at hperm
  exact ⟨literal, List.perm_singleton.mp hperm.symm, hliteral⟩

theorem Describes.of_similar {element element' : Element} {track : Track}
    (h : Describes element track) (hsimilar : Similar element element') :
    Describes element' track := by
  cases hsimilar with
  | pair => exact h
  | object hsame =>
      cases h with
      | object hartist htitle =>
          exact .object (hartist.of_sameFields (.inl rfl) hsame)
            (htitle.of_sameFields (.inr rfl) hsame) hsame.2

end StubHttp.Track
