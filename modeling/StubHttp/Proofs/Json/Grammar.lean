import Mathlib.Data.List.Forall2
import StubHttp.Text.Digits

/-!
# The grammar of JSON

What a JSON text is, told without a reader. Strings come in two kinds: those
that spell a text, whose surrogate escapes are paired (`Spells`), and those
that are only well escaped (`WellEscaped`), of which nothing is asked but the
form of each escape. `WellFormed` values are built from the second kind, since
the grammar knows nothing of surrogates.

Lists and objects share their brackets, commas and blanks. `Bracketed` splits
the text of either into the texts of its items and leaves open what an item
is; what it is, is then said of each text on its own. So the same relation
serves for lists of values, of strings and of tracks.
-/

namespace StubHttp.Json

/-- Blanks, or nothing. -/
def Blank (cs : List Char) : Prop :=
  ∀ c ∈ cs, c = ' ' ∨ c = '\n' ∨ c = '\t' ∨ c = '\r'

/-! ## Strings -/

/-- Four hexadecimal digits and the number they write. -/
def HexFour (ds : List Char) (n : Nat) : Prop :=
  ∃ a b c d p q r s, ds = [a, b, c, d] ∧ Text.hexValue? a = some p ∧ Text.hexValue? b = some q ∧
    Text.hexValue? c = some r ∧ Text.hexValue? d = some s ∧ n = ((p * 16 + q) * 16 + r) * 16 + s

/-- The escapes of one character, each with the character that it stands for. -/
def shortEscapes : List (Char × Char) :=
  [('"', '"'), ('\\', '\\'), ('/', '/'), ('b', '\x08'), ('f', '\x0c'), ('n', '\n'), ('r', '\r'),
    ('t', '\t')]

/-- What stands behind a backslash, and the character that it means. -/
inductive Escape : List Char → Char → Prop
  | short {e c : Char} : (e, c) ∈ shortEscapes → Escape [e] c
  | unicode {ds : List Char} {n : Nat} : HexFour ds n → n < 0xD800 ∨ 0xDFFF < n →
      Escape ('u' :: ds) (Char.ofNat n)
  | pair {high low : List Char} {m n : Nat} : HexFour high m → 0xD800 ≤ m → m ≤ 0xDBFF →
      HexFour low n → 0xDC00 ≤ n → n ≤ 0xDFFF →
      Escape ('u' :: high ++ '\\' :: 'u' :: low)
        (Char.ofNat (0x10000 + (m - 0xD800) * 0x400 + (n - 0xDC00)))

/-- A character that stands for itself in a string. -/
def Unescaped (c : Char) : Prop :=
  c ≠ '"' ∧ c ≠ '\\' ∧ 0x20 ≤ c.toNat

/-- What is written between quotes, and the characters that it means. -/
inductive Spells : List Char → List Char → Prop
  | nil : Spells [] []
  | plain {c : Char} {written meant : List Char} : Unescaped c → Spells written meant →
      Spells (c :: written) (c :: meant)
  | escaped {e written meant : List Char} {c : Char} : Escape e c → Spells written meant →
      Spells ('\\' :: e ++ written) (c :: meant)

/-- What may stand behind a backslash, whatever it means. -/
inductive LooseEscape : List Char → Prop
  | short {e c : Char} : (e, c) ∈ shortEscapes → LooseEscape [e]
  | unicode {ds : List Char} {n : Nat} : HexFour ds n → LooseEscape ('u' :: ds)

/-- What may be written between quotes, whatever it means. -/
inductive WellEscaped : List Char → Prop
  | nil : WellEscaped []
  | plain {c : Char} {written : List Char} : Unescaped c → WellEscaped written →
      WellEscaped (c :: written)
  | escaped {e written : List Char} : LooseEscape e → WellEscaped written →
      WellEscaped ('\\' :: e ++ written)

/-- A string literal and the string that it means. -/
def StringLiteral (t : List Char) (s : String) : Prop :=
  ∃ written, t = '"' :: written ++ ['"'] ∧ Spells written s.toList

/-! ## Numbers -/

/-- At least one digit. -/
def Digits (ds : List Char) : Prop :=
  ds ≠ [] ∧ ∀ c ∈ ds, c.isDigit = true

/-- The integer part of a number: a zero, or digits that do not begin with one. -/
def IntegerPart (t : List Char) : Prop :=
  t = ['0'] ∨ Digits t ∧ t.head? ≠ some '0'

def FractionPart (t : List Char) : Prop :=
  t = [] ∨ ∃ ds, Digits ds ∧ t = '.' :: ds

def ExponentPart (t : List Char) : Prop :=
  t = [] ∨ ∃ e sign ds, (e = 'e' ∨ e = 'E') ∧ (sign = [] ∨ sign = ['+'] ∨ sign = ['-']) ∧
    Digits ds ∧ t = e :: sign ++ ds

/-- A number without its sign. -/
def Magnitude (t : List Char) : Prop :=
  ∃ whole fraction exponent, IntegerPart whole ∧ FractionPart fraction ∧ ExponentPart exponent ∧
    t = whole ++ fraction ++ exponent

/-! ## Brackets -/

/-- What stands in front of an item: nothing but blanks if it is the first, and a comma among them
if it is not. -/
inductive Lead : Bool → List Char → Prop
  | first {b : List Char} : Blank b → Lead true b
  | later {b b' : List Char} : Blank b → Blank b' → Lead false (b ++ ',' :: b')

/-- Items up to the bracket that closes them, the first of all or a later one coming next. -/
inductive Items (close : Char) : Bool → List Char → List (List Char) → Prop
  | close {first : Bool} {b : List Char} : Blank b → Items close first (b ++ [close]) []
  | item {first : Bool} {lead text rest : List Char} {texts : List (List Char)} :
      Lead first lead → Items close false rest texts →
      Items close first (lead ++ text ++ rest) (text :: texts)

/-- A text in brackets, and the texts of its items. -/
def Bracketed (opening close : Char) (t : List Char) (texts : List (List Char)) : Prop :=
  ∃ inner, t = opening :: inner ∧ Items close true inner texts

/-- A member of an object: what is written between the quotes of its name, and its value. -/
inductive MemberText : List Char → List Char × List Char → Prop
  | mk {written b b' value : List Char} : Blank b → Blank b' →
      MemberText ('"' :: written ++ '"' :: b ++ ':' :: b' ++ value) (written, value)

/-! ## Values -/

/-- The text of one value, without blanks around it. -/
inductive WellFormed : List Char → Prop
  | null : WellFormed ['n', 'u', 'l', 'l']
  | true : WellFormed ['t', 'r', 'u', 'e']
  | false : WellFormed ['f', 'a', 'l', 's', 'e']
  | positive {t : List Char} : Magnitude t → WellFormed t
  | negative {t : List Char} : Magnitude t → WellFormed ('-' :: t)
  | string {written : List Char} : WellEscaped written → WellFormed ('"' :: written ++ ['"'])
  | array {t : List Char} {texts : List (List Char)} : Bracketed '[' ']' t texts →
      (∀ text ∈ texts, WellFormed text) → WellFormed t
  | object {t : List Char} {texts : List (List Char)} {members : List (List Char × List Char)} :
      Bracketed '\x7b' '\x7d' t texts → List.Forall₂ MemberText texts members →
      (∀ m ∈ members, WellEscaped m.1) → (∀ m ∈ members, WellFormed m.2) → WellFormed t

end StubHttp.Json
