import StubHttp.Proofs.Json.Skip
import StubHttp.Proofs.Track.Fields
import StubHttp.Proofs.Track.Written

/-!
# The decoder takes the language

`decodeList` succeeds on a text exactly if the text is a list of tracks, and
then gives these tracks.

A reader that ends at a mark of its own, as those of strings and of lists of
two strings do, is told by one equivalence. The loops over members and over
elements have a lemma in either direction, since the one is an induction on
the bound and the other on the text. The members of an object also carry the
record of their fields along, with `Completes` for its invariant.
-/

namespace StubHttp.Track

open Json

theorem ofJson_eq_ok_iff {α : Type} {x : Json.Attempt α} {a : α} :
    ofJson x = .ok a ↔ x = .ok a :=
  mapError_eq_ok_iff

/-! ## Strings -/

theorem starts_of_stringLiteral {t : List Char} {s : String} (h : StringLiteral t s) :
    Starts t := by
  obtain ⟨w, rfl, -⟩ := h
  exact ⟨_, _, rfl, by decide⟩

theorem text_eq_ok_iff {cs rest : List Char} {s : String} :
    text cs = .ok (s, rest) ↔ ∃ b t, Blank b ∧ StringLiteral t s ∧ cs = b ++ t ++ rest := by
  constructor
  · intro h
    unfold text at h
    split at h
    · cases h
    · next c left heq =>
      obtain ⟨-, b, hb, rfl⟩ := skipBlanks_eq_cons_iff.mp heq
      split_ifs at h with hc
      obtain ⟨⟨meant, left'⟩, hstring, h⟩ := bind_eq_ok_iff.mp h
      cases h
      obtain ⟨w, hw, rfl⟩ := string_eq_ok_iff.mp (ofJson_eq_ok_iff.mp hstring)
      exact ⟨b, '"' :: w ++ ['"'], hb, ⟨w, rfl, by rwa [String.toList_ofList]⟩, by rw [hc]; simp⟩
  · rintro ⟨b, t, hb, ⟨w, rfl, hw⟩, rfl⟩
    have hstring : string (w ++ '"' :: rest) = .ok (s.toList, rest) :=
      string_eq_ok_iff.mpr ⟨w, hw, rfl⟩
    simp only [List.append_assoc, List.cons_append, List.nil_append]
    rw [text, skipBlanks_append_cons hb rfl]
    dsimp only
    rw [if_pos rfl, ofJson_eq_ok_iff.mpr hstring, ok_bind]
    dsimp only
    rw [String.ofList_toList]
    rfl

/-! ## A list of two strings -/

theorem textItem_eq_ok_iff {n : Nat} {cs rest : List Char} {s : String} :
    textItem n cs = .ok (s, rest) ↔
      ∃ lead t, Lead (n = 0) lead ∧ StringLiteral t s ∧ cs = lead ++ t ++ rest := by
  constructor
  · intro h
    obtain ⟨item, hitem, htext⟩ := bind_eq_ok_iff.mp h
    cases item with
    | none => cases htext
    | some item =>
        obtain ⟨lead, hlead, rfl⟩ := item?_separator.sound (ofJson_eq_ok_iff.mp hitem)
        obtain ⟨b, t, hb, ht, rfl⟩ := text_eq_ok_iff.mp htext
        exact ⟨lead ++ b, t, hlead.append hb, ht, by simp⟩
  · rintro ⟨lead, t, hlead, ht, rfl⟩
    obtain ⟨b, hb, hitem⟩ :=
      item?_separator.complete hlead ((starts_of_stringLiteral ht).append rest)
    rw [textItem, List.append_assoc, ofJson_eq_ok_iff.mpr hitem, ok_bind]
    exact text_eq_ok_iff.mpr ⟨b, t, hb, ht, (List.append_assoc ..).symm⟩

theorem endOfPair_eq_ok_iff {cs rest : List Char} :
    endOfPair cs = .ok rest ↔ ∃ b, Blank b ∧ cs = b ++ ']' :: rest := by
  constructor
  · intro h
    unfold endOfPair at h
    split at h
    · cases h
    · next c left heq =>
      obtain ⟨-, b, hb, rfl⟩ := skipBlanks_eq_cons_iff.mp heq
      split at h
      · next hc =>
        cases h
        exact ⟨b, hb, by rw [hc]⟩
      split at h
      · split at h <;> cases h
      · cases h
  · rintro ⟨b, hb, rfl⟩
    rw [endOfPair, skipBlanks_append_cons hb rfl]
    rfl

theorem pair_eq_ok_iff {cs rest : List Char} {track : Track} :
    pair cs = .ok (track, rest) ↔
      ∃ t a b, Items ']' true t [a, b] ∧ StringLiteral a track.artist ∧
        StringLiteral b track.title ∧ cs = t ++ rest := by
  constructor
  · intro h
    obtain ⟨⟨artist, left⟩, hartist, h⟩ := bind_eq_ok_iff.mp h
    obtain ⟨⟨title, left'⟩, htitle, h⟩ := bind_eq_ok_iff.mp h
    obtain ⟨left'', hend, h⟩ := bind_eq_ok_iff.mp h
    cases h
    obtain ⟨lead, a, hlead, ha, rfl⟩ := textItem_eq_ok_iff.mp hartist
    obtain ⟨lead', b, hlead', hb, rfl⟩ := textItem_eq_ok_iff.mp htitle
    obtain ⟨blank, hblank, rfl⟩ := endOfPair_eq_ok_iff.mp (ofJson_eq_ok_iff.mp hend)
    exact ⟨lead ++ a ++ (lead' ++ b ++ (blank ++ [']'])), a, b,
      .item hlead (.item hlead' (.close hblank)), ha, hb, by simp⟩
  · rintro ⟨t, a, b, hitems, ha, hb, rfl⟩
    cases hitems with | @item _ lead _ left _ hlead hitems =>
    cases hitems with | @item _ lead' _ left' _ hlead' hitems =>
    cases hitems with | @close _ blank hblank =>
    have hartist : textItem 0 (lead ++ a ++ (lead' ++ b ++ (blank ++ ']' :: rest)))
        = .ok (track.artist, lead' ++ b ++ (blank ++ ']' :: rest)) :=
      textItem_eq_ok_iff.mpr ⟨lead, a, hlead, ha, rfl⟩
    have htitle : textItem 1 (lead' ++ b ++ (blank ++ ']' :: rest))
        = .ok (track.title, blank ++ ']' :: rest) :=
      textItem_eq_ok_iff.mpr ⟨lead', b, hlead', hb, rfl⟩
    have hend : endOfPair (blank ++ ']' :: rest) = .ok rest :=
      endOfPair_eq_ok_iff.mpr ⟨blank, hblank, rfl⟩
    simp only [List.append_assoc, List.cons_append, List.nil_append] at hartist htitle ⊢
    rw [pair, hartist, ok_bind]
    dsimp only
    rw [htitle, ok_bind]
    dsimp only
    rw [ofJson_eq_ok_iff.mpr hend]
    rfl

/-! ## Members -/

theorem memberValue_sound {fields fields' : Fields} {name : String} {cs rest : List Char}
    (h : memberValue fields name cs = .ok (fields', rest)) :
    ∃ b b' literal, Blank b ∧ Blank b' ∧ Adds fields name literal fields' ∧
      cs = b ++ ':' :: (b' ++ literal ++ rest) := by
  unfold memberValue at h
  split at h
  · next hof =>
    obtain ⟨left, hother, h⟩ := bind_eq_ok_iff.mp h
    cases h
    obtain ⟨left, hcolon, hskip⟩ := bind_eq_ok_iff.mp (ofJson_eq_ok_iff.mp hother)
    obtain ⟨b, hb, rfl⟩ := colon_eq_ok_iff.mp hcolon
    obtain ⟨b', literal, hb', hliteral, rfl⟩ := skip_sound hskip
    exact ⟨b, b', literal, hb, hb', .other hof hliteral, rfl⟩
  · next field hof =>
    split at h
    · cases h
    · next hnone =>
      obtain ⟨left, hcolon, h⟩ := bind_eq_ok_iff.mp h
      obtain ⟨⟨s, left'⟩, htext, h⟩ := bind_eq_ok_iff.mp h
      cases h
      obtain ⟨b, hb, rfl⟩ := colon_eq_ok_iff.mp (ofJson_eq_ok_iff.mp hcolon)
      obtain ⟨b', literal, hb', hliteral, rfl⟩ := text_eq_ok_iff.mp htext
      rw [Option.not_isSome_iff_eq_none] at hnone
      exact ⟨b, b', literal, hb, hb', .field hof hnone hliteral, rfl⟩

theorem memberValue_append {fields fields' : Fields} {name : String} {b b' literal rest : List Char}
    (hb : Blank b) (hb' : Blank b') (h : Adds fields name literal fields')
    (hrest : EndsNumber rest) :
    memberValue fields name (b ++ ':' :: (b' ++ literal ++ rest)) = .ok (fields', rest) := by
  have hcolon : colon (b ++ ':' :: (b' ++ literal ++ rest)) = .ok (b' ++ literal ++ rest) :=
    colon_eq_ok_iff.mpr ⟨b, hb, rfl⟩
  unfold memberValue
  cases h with
  | other hof hliteral =>
      rw [hof, hcolon, ok_bind, ofJson_eq_ok_iff.mpr (skip_append hb' hliteral hrest)]
      rfl
  | @field field s hof hnone hliteral =>
      have htext : text (b' ++ literal ++ rest) = .ok (s, rest) :=
        text_eq_ok_iff.mpr ⟨b', literal, hb', hliteral, rfl⟩
      rw [hof, ofJson_eq_ok_iff.mpr hcolon]
      dsimp only
      rw [hnone, if_neg (by decide), ok_bind, htext]
      rfl

theorem membersWithin_sound :
    ∀ {bound : List Char} {first : Bool} {fields : Fields} {cs rest : List Char} {track : Track},
      membersWithin bound first fields cs = .ok (track, rest) →
        ∃ t texts members, Items '\x7d' first t texts ∧ List.Forall₂ NamedMember texts members ∧
          Completes fields members track ∧ cs = t ++ rest
  | [], _, _, _, _, _, h => by cases h
  | _ :: bound, first, fields, cs, rest, track, h => by
      rw [membersWithin] at h
      obtain ⟨name?, hmember, h⟩ := bind_eq_ok_iff.mp h
      replace hmember := ofJson_eq_ok_iff.mp hmember
      cases name? with
      | none =>
          dsimp only at h
          split at h
          · next track' htrack =>
            cases h
            obtain ⟨b, rest, hb, rfl⟩ := member?_eq_none_iff.mp hmember
            refine ⟨b ++ ['\x7d'], [], [], .close hb, .nil, completes_nil.mpr htrack, ?_⟩
            rw [afterClose_append hb (.inr rfl), List.append_assoc]
            rfl
          · cases h
      | some name =>
          obtain ⟨⟨key, left⟩, hkey, h⟩ := bind_eq_ok_iff.mp h
          obtain ⟨⟨fields', left'⟩, hvalue, hloop⟩ := bind_eq_ok_iff.mp h
          obtain ⟨lead, hlead, rfl⟩ := member?_eq_some_iff.mp hmember
          obtain ⟨w, hw, rfl⟩ := string_eq_ok_iff.mp (ofJson_eq_ok_iff.mp hkey)
          obtain ⟨b, b', literal, hb, hb', hadds, rfl⟩ := memberValue_sound hvalue
          obtain ⟨t, texts, members, ht, htexts, hmembers, rfl⟩ := membersWithin_sound hloop
          have hnamed : NamedMember ('"' :: w ++ '"' :: b ++ ':' :: b' ++ literal)
              (String.ofList key, literal) :=
            ⟨w, .mk hb hb', by rwa [String.toList_ofList]⟩
          exact ⟨_, _, _, .item hlead ht, .cons hnamed htexts,
            completes_cons.mpr ⟨fields', hadds, hmembers⟩, by simp⟩

theorem membersWithin_append {first : Bool} {t : List Char} {texts : List (List Char)}
    (ht : Items '\x7d' first t texts) :
    ∀ {bound : List Char} {fields : Fields} {members : List Member} {track : Track}
      (rest : List Char), List.Forall₂ NamedMember texts members →
      Completes fields members track → t.length ≤ bound.length →
        membersWithin bound first fields (t ++ rest) = .ok (track, rest) := by
  induction ht with
  | @close first b hb =>
      intro bound fields members track rest hmembers htrack hbound
      cases hmembers
      have hitems : Items '\x7d' first (b ++ ['\x7d']) [] := .close hb
      obtain ⟨_, bound, rfl⟩ := List.exists_cons_of_length_pos (hitems.length_pos.trans_le hbound)
      have hend : member? first (b ++ '\x7d' :: rest) = .ok none :=
        member?_eq_none_iff.mpr ⟨b, rest, hb, rfl⟩
      rw [List.append_assoc, List.singleton_append, membersWithin, ofJson_eq_ok_iff.mpr hend,
        ok_bind]
      dsimp only
      rw [completes_nil.mp htrack]
      dsimp only
      rw [afterClose_append hb (.inr rfl)]
      rfl
  | @item first lead text left texts hlead hleft ih =>
      intro bound fields members track rest hmembers htrack hbound
      obtain ⟨⟨name, literal⟩, members, ⟨w, hmember, hw⟩, hrest, rfl⟩ :=
        List.forall₂_cons_left_iff.mp hmembers
      obtain ⟨fields', hadds, htrack⟩ := completes_cons.mp htrack
      obtain ⟨_, bound, rfl⟩ :=
        List.exists_cons_of_length_pos ((Items.item hlead hleft).length_pos.trans_le hbound)
      cases hmember with | @mk _ b b' _ hb hb' =>
      simp only [List.length_append, List.length_cons] at hbound
      have hends : EndsNumber (left ++ rest) := hleft.endsNumber (.inr rfl) rest
      have hmember : member? first (lead ++ '"' :: (w ++ '"' :: (b ++ ':' ::
          (b' ++ literal ++ (left ++ rest))))) = .ok (some (w ++ '"' :: (b ++ ':' ::
          (b' ++ literal ++ (left ++ rest))))) :=
        member?_eq_some_iff.mpr ⟨lead, hlead, rfl⟩
      have hkey : string (w ++ '"' :: (b ++ ':' :: (b' ++ literal ++ (left ++ rest))))
          = .ok (name.toList, b ++ ':' :: (b' ++ literal ++ (left ++ rest))) :=
        string_eq_ok_iff.mpr ⟨w, hw, rfl⟩
      have hvalue := memberValue_append hb hb' hadds hends
      -- The record that this member leaves is completed by the members after it.
      have hloop := @ih bound _ _ _ rest hrest htrack (by omega)
      simp only [List.append_assoc, List.cons_append] at hmember hkey hvalue ⊢
      rw [membersWithin, ofJson_eq_ok_iff.mpr hmember, ok_bind]
      dsimp only
      rw [ofJson_eq_ok_iff.mpr hkey, ok_bind]
      dsimp only
      rw [String.ofList_toList, hvalue, ok_bind]
      exact hloop

theorem object_eq_ok_iff {cs rest : List Char} {track : Track} :
    object cs = .ok (track, rest) ↔
      ∃ t texts members, Items '\x7d' true t texts ∧ List.Forall₂ NamedMember texts members ∧
        Describes (.object members) track ∧ cs = t ++ rest := by
  simp only [describes_object_iff]
  refine ⟨membersWithin_sound, ?_⟩
  rintro ⟨t, texts, members, ht, hmembers, htrack, rfl⟩
  exact membersWithin_append ht rest hmembers htrack (by simp)

/-! ## Elements -/

/-- The text of an element that describes a track. -/
def TrackText (t : List Char) (track : Track) : Prop :=
  ∃ element, ElementText t element ∧ Describes element track

theorem TrackText.starts {t : List Char} {track : Track} (h : TrackText t track) : Starts t := by
  obtain ⟨element, htext, -⟩ := h
  cases htext with
  | object h =>
      obtain ⟨inner, rfl, -⟩ := h
      exact ⟨_, _, rfl, by decide⟩
  | pair h =>
      obtain ⟨inner, rfl, -⟩ := h
      exact ⟨_, _, rfl, by decide⟩

theorem element_eq_ok_iff {cs rest : List Char} {track : Track} :
    element cs = .ok (track, rest) ↔ ∃ b t, Blank b ∧ TrackText t track ∧ cs = b ++ t ++ rest := by
  constructor
  · intro h
    unfold element at h
    split at h
    · cases h
    · next c left heq =>
      obtain ⟨-, b, hb, rfl⟩ := skipBlanks_eq_cons_iff.mp heq
      split_ifs at h with hbracket hbrace
      · obtain ⟨t, artist, title, ht, hartist, htitle, rfl⟩ := pair_eq_ok_iff.mp h
        exact ⟨b, '[' :: t, hb, ⟨_, .pair ⟨t, rfl, ht⟩, .pair hartist htitle⟩,
          by rw [hbracket]; simp⟩
      · obtain ⟨t, texts, members, ht, hmembers, htrack, rfl⟩ := object_eq_ok_iff.mp h
        exact ⟨b, '\x7b' :: t, hb, ⟨_, .object ⟨t, rfl, ht⟩ hmembers, htrack⟩,
          by rw [hbrace]; simp⟩
  · rintro ⟨b, t, hb, ⟨e, htext, htrack⟩, rfl⟩
    cases htext with
    | pair h =>
        obtain ⟨inner, rfl, hinner⟩ := h
        cases htrack with
        | pair hartist htitle =>
            rw [List.append_assoc, List.cons_append, element, skipBlanks_append_cons hb rfl]
            exact pair_eq_ok_iff.mpr ⟨inner, _, _, hinner, hartist, htitle, rfl⟩
    | object h hmembers =>
        obtain ⟨inner, rfl, hinner⟩ := h
        rw [List.append_assoc, List.cons_append, element, skipBlanks_append_cons hb rfl]
        exact object_eq_ok_iff.mpr ⟨inner, _, _, hinner, hmembers, htrack, rfl⟩

theorem elementsWithin_sound :
    ∀ {bound : List Char} {first : Bool} {cs rest : List Char} {tracks : List Track},
      elementsWithin bound first cs = .ok (tracks, rest) →
        ∃ t texts, Items ']' first t texts ∧ List.Forall₂ TrackText texts tracks ∧ cs = t ++ rest
  | [], _, _, _, _, h => by cases h
  | _ :: bound, first, cs, rest, tracks, h => by
      rw [elementsWithin] at h
      obtain ⟨item?, hitem, h⟩ := bind_eq_ok_iff.mp h
      replace hitem := ofJson_eq_ok_iff.mp hitem
      cases item? with
      | none =>
          cases h
          obtain ⟨b, hb, hcs⟩ := item?_separator.none_sound (.inl rfl) hitem
          exact ⟨b ++ [']'], [], .close hb, .nil, hcs⟩
      | some item =>
          obtain ⟨⟨track, left⟩, helement, h⟩ := bind_eq_ok_iff.mp h
          obtain ⟨⟨tracks', left'⟩, hloop, h⟩ := bind_eq_ok_iff.mp h
          cases h
          obtain ⟨lead, hlead, rfl⟩ := item?_separator.sound hitem
          obtain ⟨b, text, hb, htext, rfl⟩ := element_eq_ok_iff.mp helement
          obtain ⟨t, texts, ht, htexts, rfl⟩ := elementsWithin_sound hloop
          exact ⟨lead ++ b ++ text ++ t, text :: texts, .item (hlead.append hb) ht,
            .cons htext htexts, by simp⟩

theorem elementsWithin_append {first : Bool} {t : List Char} {texts : List (List Char)}
    (ht : Items ']' first t texts) :
    ∀ {bound : List Char} {tracks : List Track} (rest : List Char),
      List.Forall₂ TrackText texts tracks → t.length ≤ bound.length →
        elementsWithin bound first (t ++ rest) = .ok (tracks, rest) := by
  induction ht with
  | @close first b hb =>
      intro bound tracks rest htracks hbound
      cases htracks
      have hitems : Items ']' first (b ++ [']']) [] := .close hb
      obtain ⟨_, bound, rfl⟩ := List.exists_cons_of_length_pos (hitems.length_pos.trans_le hbound)
      have hend : item? first (b ++ ']' :: rest) = .ok none :=
        item?_separator.none_iff.mpr ⟨b, rest, hb, rfl⟩
      rw [List.append_assoc, List.singleton_append, elementsWithin, ofJson_eq_ok_iff.mpr hend,
        ok_bind]
      dsimp only
      rw [afterClose_append hb (.inl rfl)]
      rfl
  | @item first lead text left texts hlead hleft ih =>
      intro bound tracks rest htracks hbound
      obtain ⟨track, tracks, htext, hrest, rfl⟩ := List.forall₂_cons_left_iff.mp htracks
      obtain ⟨_, bound, rfl⟩ :=
        List.exists_cons_of_length_pos ((Items.item hlead hleft).length_pos.trans_le hbound)
      have hpos := htext.starts.length_pos
      simp only [List.length_append, List.length_cons] at hbound
      obtain ⟨b, hb, hitem⟩ :=
        item?_separator.complete hlead (htext.starts.append (left ++ rest))
      have helement : element (b ++ (text ++ (left ++ rest))) = .ok (track, left ++ rest) :=
        element_eq_ok_iff.mpr ⟨b, text, hb, htext, (List.append_assoc ..).symm⟩
      rw [List.append_assoc, List.append_assoc, elementsWithin, ofJson_eq_ok_iff.mpr hitem,
        ok_bind]
      dsimp only
      rw [helement, ok_bind]
      dsimp only
      rw [ih rest hrest (by omega)]
      rfl

/-! ## Whole texts -/

theorem readList_eq_ok_iff {cs rest : List Char} {tracks : List Track} :
    readList cs = .ok (tracks, rest) ↔
      ∃ b list texts, Blank b ∧ Bracketed '[' ']' list texts ∧
        List.Forall₂ TrackText texts tracks ∧ cs = b ++ list ++ rest := by
  constructor
  · intro h
    unfold readList at h
    split at h
    · cases h
    · next c left heq =>
      obtain ⟨-, b, hb, rfl⟩ := skipBlanks_eq_cons_iff.mp heq
      split_ifs at h with hc
      obtain ⟨t, texts, ht, htracks, rfl⟩ := elementsWithin_sound h
      exact ⟨b, '[' :: t, texts, hb, ⟨t, rfl, ht⟩, htracks, by rw [hc]; simp⟩
  · rintro ⟨b, _, texts, hb, ⟨inner, rfl, hinner⟩, htracks, rfl⟩
    rw [List.append_assoc, List.cons_append, readList, skipBlanks_append_cons hb rfl]
    exact elementsWithin_append hinner rest htracks (by simp)

theorem finish_eq_ok_iff {cs : List Char} : finish cs = .ok () ↔ Blank cs := by
  rw [← skipBlanks_eq_nil_iff]
  unfold finish
  split
  · next h => simp [h]
  · next h => simp [h]

theorem forall₂_trackText_iff {texts : List (List Char)} {tracks : List Track} :
    List.Forall₂ TrackText texts tracks ↔
      ∃ elements, List.Forall₂ ElementText texts elements ∧
        List.Forall₂ Describes elements tracks := by
  constructor
  · intro h
    induction h with
    | nil => exact ⟨[], .nil, .nil⟩
    | cons h _ ih =>
        obtain ⟨element, htext, htrack⟩ := h
        obtain ⟨elements, htexts, htracks⟩ := ih
        exact ⟨element :: elements, .cons htext htexts, .cons htrack htracks⟩
  · rintro ⟨elements, htexts, htracks⟩
    induction htexts generalizing tracks with
    | nil =>
        cases htracks
        exact .nil
    | cons htext _ ih =>
        obtain ⟨track, tracks, htrack, hrest, rfl⟩ := List.forall₂_cons_left_iff.mp htracks
        exact .cons ⟨_, htext, htrack⟩ (ih hrest)

theorem decodeListChars_eq_ok_iff {cs : List Char} {tracks : List Track} :
    decodeListChars cs = .ok tracks ↔
      ∃ elements, ElementsText cs elements ∧ List.Forall₂ Describes elements tracks := by
  constructor
  · intro h
    obtain ⟨⟨tracks', rest⟩, hread, h⟩ := bind_eq_ok_iff.mp h
    obtain ⟨⟨⟩, hfinish, h⟩ := bind_eq_ok_iff.mp h
    cases h
    obtain ⟨b, list, texts, hb, hlist, htracks, rfl⟩ := readList_eq_ok_iff.mp hread
    obtain ⟨elements, htexts, htracks⟩ := forall₂_trackText_iff.mp htracks
    have hrest : Blank rest := finish_eq_ok_iff.mp (ofJson_eq_ok_iff.mp hfinish)
    exact ⟨elements, ⟨b, list, rest, texts, hb, hrest, rfl, hlist, htexts⟩, htracks⟩
  · rintro ⟨elements, ⟨b, list, b', texts, hb, hb', rfl, hlist, htexts⟩, htracks⟩
    have htracks := forall₂_trackText_iff.mpr ⟨elements, htexts, htracks⟩
    have hread : readList (b ++ list ++ b') = .ok (tracks, b') :=
      readList_eq_ok_iff.mpr ⟨b, list, texts, hb, hlist, htracks, rfl⟩
    rw [decodeListChars, hread, ok_bind]
    dsimp only
    rw [ofJson_eq_ok_iff.mpr (finish_eq_ok_iff.mpr hb')]
    rfl

theorem decodeList_of_elements {s : String} {elements : List Element} {tracks : List Track}
    (htext : ElementsText s.toList elements) (htracks : List.Forall₂ Describes elements tracks) :
    decodeList s = .ok tracks :=
  mapError_eq_ok_iff.mpr (decodeListChars_eq_ok_iff.mpr ⟨elements, htext, htracks⟩)

theorem forall₂_describes_of_similar {elements elements' : List Element} {tracks : List Track}
    (h : List.Forall₂ Describes elements tracks)
    (hsimilar : List.Forall₂ Similar elements elements') :
    List.Forall₂ Describes elements' tracks := by
  induction hsimilar generalizing tracks with
  | nil => exact h
  | cons hsimilar _ ih =>
      obtain ⟨track, tracks, htrack, hrest, rfl⟩ := List.forall₂_cons_left_iff.mp h
      exact .cons (htrack.of_similar hsimilar) (ih hrest)

/-- The decoder gives tracks exactly for the texts whose elements describe them, and gives the same
for a text whose objects have their fields in another order or among other members. -/
theorem decodeList_accepts (s : String) (tracks : List Track) :
    (decodeList s = .ok tracks ↔
      ∃ elements, ElementsText s.toList elements ∧ List.Forall₂ Describes elements tracks) ∧
    ∀ (s' : String) (elements elements' : List Element),
      ElementsText s.toList elements → List.Forall₂ Describes elements tracks →
      ElementsText s'.toList elements' → List.Forall₂ Similar elements elements' →
        decodeList s' = decodeList s := by
  refine ⟨mapError_eq_ok_iff.trans decodeListChars_eq_ok_iff, ?_⟩
  intro s' elements elements' htext htracks htext' hsimilar
  have htracks' := forall₂_describes_of_similar htracks hsimilar
  rw [decodeList_of_elements htext htracks, decodeList_of_elements htext' htracks']

/-- The fields of a track, once in their order and once the other way round with another member
between them. -/
theorem decodeList_accepts_reordered :
    ∃ elements elements',
      ElementsText "[\x7b\"artist\":\"A\",\"title\":\"B\"\x7d]".toList elements ∧
      List.Forall₂ Describes elements [⟨"A", "B"⟩] ∧
      ElementsText "[\x7b\"title\":\"B\",\"live\":true,\"artist\":\"A\"\x7d]".toList elements' ∧
      List.Forall₂ Similar elements elements' ∧
      decodeList "[\x7b\"title\":\"B\",\"live\":true,\"artist\":\"A\"\x7d]"
        = decodeList "[\x7b\"artist\":\"A\",\"title\":\"B\"\x7d]" := by
  have htext : ElementsText (Value.array [.object
      [("artist", .string "A"), ("title", .string "B")]]).print.toList _ :=
    elementsText_print (.cons (elementText_object _) .nil)
  have htext' : ElementsText (Value.array [.object
      [("title", .string "B"), ("live", .boolean true), ("artist", .string "A")]]).print.toList _ :=
    elementsText_print (.cons (elementText_object _) .nil)
  have htracks := forall₂_describes [⟨"A", "B"⟩]
  have hsimilar : Similar (writtenElement ⟨"A", "B"⟩) (.object
      (List.map writtenMember
        [("title", .string "B"), ("live", .boolean true), ("artist", .string "A")])) := by
    refine .object ⟨List.Perm.swap .., fun m hm hfield => ?_⟩
    simp only [List.map_cons, List.map_nil, List.mem_cons, List.not_mem_nil, or_false] at hm
    rcases hm with rfl | rfl | rfl
    · exact absurd (.inr rfl) hfield
    · exact .true
    · exact absurd (.inl rfl) hfield
  exact ⟨_, _, htext, htracks, htext', .cons hsimilar .nil,
    (decodeList_accepts _ [⟨"A", "B"⟩]).2 _ _ _ htext htracks htext' (.cons hsimilar .nil)⟩

end StubHttp.Track
