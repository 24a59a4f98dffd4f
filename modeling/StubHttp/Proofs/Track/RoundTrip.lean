import StubHttp.Fixture
import StubHttp.Proofs.Track.Decoder

/-!
# Tracks survive encoding

The body of a fixture made from tracks decodes to just these tracks. So what
has been decoded once, from whatever text, no longer changes: encoded again it
decodes to the same tracks, and these are encoded as the same text.
-/

namespace StubHttp.Track

theorem decodeList_printList (tracks : List Track) : decodeList (printList tracks) = .ok tracks :=
  decodeList_of_elements (elementsText_printList tracks) (forall₂_describes tracks)

/-- Encoding never fails for tracks. -/
theorem encode_tracks (tracks : List Track) :
    (Payload.tracks tracks).encode = .ok (printList tracks) := rfl

/-- A fixture can be made from any tracks, and they are what its body decodes to. Whatever text
tracks have been decoded from, their own text decodes to them, and is the text that they are then
encoded as. -/
theorem json_tracks_roundTrip :
    (∀ (path description : String) (tracks : List Track),
      ∃ fixture, Fixture.json path (.tracks tracks) description = .ok fixture ∧
        fixture.path = path ∧ fixture.description = description ∧
        decodeList fixture.body = .ok tracks) ∧
    ∀ (text : String) (tracks : List Track), decodeList text = .ok tracks →
      ∃ body, (Payload.tracks tracks).encode = .ok body ∧ decodeList body = .ok tracks ∧
        ∀ tracks', decodeList body = .ok tracks' → (Payload.tracks tracks').encode = .ok body := by
  constructor
  · intro path description tracks
    have hjson : Fixture.json path (.tracks tracks) description
        = .ok ⟨path, printList tracks, description⟩ := by
      rw [Fixture.json, encode_tracks]
      rfl
    exact ⟨_, hjson, rfl, rfl, decodeList_printList tracks⟩
  · intro text tracks _
    refine ⟨printList tracks, encode_tracks tracks, decodeList_printList tracks, ?_⟩
    intro tracks' hdecode
    rw [decodeList_printList] at hdecode
    cases hdecode
    exact encode_tracks tracks

/-- A text with blanks, an escape, another member and the fields in the wrong order. -/
theorem json_tracks_roundTrip_reordered :
    decodeList " [ \x7b\"title\":\"B\", \"live\":[1e9], \"artist\":\"\\u0041\"\x7d ]"
        = .ok [⟨"A", "B"⟩] ∧
      ∃ body, (Payload.tracks [⟨"A", "B"⟩]).encode = .ok body ∧
        decodeList body = .ok [⟨"A", "B"⟩] ∧
        ∀ tracks', decodeList body = .ok tracks' → (Payload.tracks tracks').encode = .ok body :=
  ⟨rfl, json_tracks_roundTrip.2
    " [ \x7b\"title\":\"B\", \"live\":[1e9], \"artist\":\"\\u0041\"\x7d ]" [⟨"A", "B"⟩] rfl⟩

end StubHttp.Track
