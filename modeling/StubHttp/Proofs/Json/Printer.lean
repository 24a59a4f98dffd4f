import StubHttp.Json.Printer
import StubHttp.Proofs.Json.Strings

/-!
# What is written is in the language

A written string literal means the string it was written for, whatever
characters it holds (`stringLiteral_quote`). Written lists and objects have
nothing between their items but commas, and come apart into the texts of the
items again (`bracketed_array`, `bracketed_object`).
-/

namespace StubHttp.Json

/-! ## Strings -/

/-- The two digits that tell the control characters apart are read as what they write. -/
theorem hexValue?_hexDigit_of_lt : ∀ n < 0x20,
    Text.hexValue? (hexDigit (n / 16)) = some (n / 16) ∧
      Text.hexValue? (hexDigit n) = some (n % 16) := by
  decide

theorem hexFour_of_lt {n : Nat} (h : n < 0x20) :
    HexFour ['0', '0', hexDigit (n / 16), hexDigit n] n := by
  obtain ⟨hhigh, hlow⟩ := hexValue?_hexDigit_of_lt n h
  exact ⟨_, _, _, _, 0, 0, n / 16, n % 16, rfl, rfl, rfl, hhigh, hlow, by omega⟩

theorem spells_escapeChar (c : Char) {written meant : List Char} (h : Spells written meant) :
    Spells (escapeChar c ++ written) (c :: meant) := by
  unfold escapeChar
  split_ifs with hquote hback hb ht hn hf hr hcontrol
  · subst hquote
    exact .escaped (.short (by decide)) h
  · subst hback
    exact .escaped (.short (by decide)) h
  · subst hb
    exact .escaped (.short (by decide)) h
  · subst ht
    exact .escaped (.short (by decide)) h
  · subst hn
    exact .escaped (.short (by decide)) h
  · subst hf
    exact .escaped (.short (by decide)) h
  · subst hr
    exact .escaped (.short (by decide)) h
  · have hunicode := Escape.unicode (hexFour_of_lt hcontrol) (.inl (by omega))
    rw [Char.ofNat_toNat] at hunicode
    exact .escaped hunicode h
  · exact .plain ⟨hquote, hback, by omega⟩ h

theorem spells_flatMap_escapeChar : ∀ s : List Char, Spells (s.flatMap escapeChar) s
  | [] => .nil
  | c :: s => by
      rw [List.flatMap_cons]
      exact spells_escapeChar c (spells_flatMap_escapeChar s)

/-- What is written for a string between its quotes. -/
abbrev writtenString (s : String) : List Char :=
  s.toList.flatMap escapeChar

theorem stringLiteral_quote (s : String) : StringLiteral (quote s.toList) s :=
  ⟨writtenString s, rfl, spells_flatMap_escapeChar s.toList⟩

/-! ## Items between commas -/

theorem items_intercalate (close : Char) :
    ∀ {first : Bool} {lead : List Char} (text : List Char) (texts : List (List Char)),
      Lead first lead →
        Items close first (lead ++ List.intercalate [','] (text :: texts) ++ [close])
          (text :: texts)
  | first, lead, text, [], hlead => by
      rw [List.intercalate_singleton]
      exact .item hlead (.close .nil)
  | first, lead, text, text' :: texts, hlead => by
      have hrest : Items close false ([','] ++ List.intercalate [','] (text' :: texts) ++ [close])
          (text' :: texts) := items_intercalate close text' texts (.later .nil .nil)
      have hitems : Items close first
          (lead ++ text ++ ([','] ++ List.intercalate [','] (text' :: texts) ++ [close]))
          (text :: text' :: texts) := .item hlead hrest
      rw [List.intercalate_cons_cons]
      simpa only [List.append_assoc] using hitems

theorem bracketed_intercalate (opening close : Char) :
    ∀ texts : List (List Char),
      Bracketed opening close (opening :: List.intercalate [','] texts ++ [close]) texts
  | [] => ⟨_, rfl, .close .nil⟩
  | text :: texts => ⟨_, rfl, items_intercalate close text texts (.first .nil)⟩

theorem itemsText_eq : ∀ items : List Value,
    itemsText items = List.intercalate [','] (items.map Value.text)
  | [] => rfl
  | [v] => (List.intercalate_singleton ..).symm
  | v :: w :: rest => by
      rw [itemsText, itemsText_eq (w :: rest)]
      simp [List.intercalate_cons_cons]

/-- The text of one member. -/
def memberText (m : String × Value) : List Char :=
  quote m.1.toList ++ ':' :: m.2.text

/-- What is written for a member: its name between the quotes, and its value. -/
def writtenParts (m : String × Value) : List Char × List Char :=
  (writtenString m.1, m.2.text)

theorem memberText_writtenParts (m : String × Value) :
    MemberText (memberText m) (writtenParts m) := by
  have hmember : MemberText ('"' :: writtenString m.1 ++ '"' :: [] ++ ':' :: [] ++ m.2.text)
      (writtenParts m) := .mk .nil .nil
  simpa [memberText, quote] using hmember

theorem membersText_eq : ∀ members : List (String × Value),
    membersText members = List.intercalate [','] (members.map memberText)
  | [] => rfl
  | [m] => (List.intercalate_singleton ..).symm
  | (n, v) :: m :: rest => by
      rw [membersText, membersText_eq (m :: rest)]
      simp [List.intercalate_cons_cons, memberText]

theorem bracketed_array (items : List Value) :
    Bracketed '[' ']' (Value.array items).text (items.map Value.text) := by
  rw [Value.text, itemsText_eq]
  exact bracketed_intercalate ..

theorem bracketed_object (members : List (String × Value)) :
    Bracketed '\x7b' '\x7d' (Value.object members).text (members.map memberText) := by
  rw [Value.text, membersText_eq]
  exact bracketed_intercalate ..

end StubHttp.Json
