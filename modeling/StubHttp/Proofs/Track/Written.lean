import StubHttp.Proofs.Json.Printer
import StubHttp.Proofs.Track.Grammar

/-!
# Tracks as they are written

The compact text of a list of tracks is a list of tracks in the language, and
of the tracks that it was written for (`elementsText_printList`,
`describes_writtenElement`).
-/

namespace StubHttp.Track

open Json

/-- A member whose value has been written. -/
def writtenMember (m : String × Value) : Member :=
  (m.1, m.2.text)

theorem namedMember_memberText (m : String × Value) :
    NamedMember (memberText m) (writtenMember m) :=
  ⟨writtenString m.1, memberText_writtenParts m, spells_flatMap_escapeChar m.1.toList⟩

theorem forall₂_namedMember : ∀ members : List (String × Value),
    List.Forall₂ NamedMember (members.map memberText) (members.map writtenMember)
  | [] => .nil
  | m :: members => .cons (namedMember_memberText m) (forall₂_namedMember members)

theorem elementText_object (members : List (String × Value)) :
    ElementText (Value.object members).text (.object (members.map writtenMember)) :=
  .object (bracketed_object members) (forall₂_namedMember members)

theorem elementsText_print {items : List Value} {elements : List Element}
    (h : List.Forall₂ ElementText (items.map Value.text) elements) :
    ElementsText (Value.array items).print.toList elements := by
  rw [Value.print, String.toList_ofList]
  exact ⟨[], _, [], _, .nil, .nil, (List.append_nil _).symm, bracketed_array items, h⟩

/-- A track as an element of a written list. -/
def writtenElement (track : Track) : Element :=
  .object [("artist", quote track.artist.toList), ("title", quote track.title.toList)]

theorem describes_writtenElement (track : Track) : Describes (writtenElement track) track := by
  refine .object ⟨_, rfl, stringLiteral_quote _⟩ ⟨_, rfl, stringLiteral_quote _⟩ ?_
  intro m hm hfield
  rcases List.mem_pair.mp hm with rfl | rfl
  · exact absurd (.inl rfl) hfield
  · exact absurd (.inr rfl) hfield

theorem forall₂_describes : ∀ tracks : List Track,
    List.Forall₂ Describes (tracks.map writtenElement) tracks
  | [] => .nil
  | track :: tracks => .cons (describes_writtenElement track) (forall₂_describes tracks)

theorem forall₂_elementText : ∀ tracks : List Track,
    List.Forall₂ ElementText ((tracks.map toJson).map Value.text) (tracks.map writtenElement)
  | [] => .nil
  | track :: tracks =>
      .cons (elementText_object [("artist", .string track.artist), ("title", .string track.title)])
        (forall₂_elementText tracks)

theorem elementsText_printList (tracks : List Track) :
    ElementsText (printList tracks).toList (tracks.map writtenElement) :=
  elementsText_print (forall₂_elementText tracks)

end StubHttp.Track
