import StubHttp.Track.Basic
import StubHttp.Json.Skip
import StubHttp.Text.Quoted

/-!
# Reading lists of tracks

`Track.decodeList` reads a whole text as a list of tracks. An element is an
object that has each field of a track once, as a string, among other members
that are passed over, or else a list of exactly two strings, artist and title.

A value of the wrong kind is reported where it was recognised: a list or an
object at its bracket, anything else after it. A missing or repeated field is
reported only when the enclosing object has been left, or could not be
(`beyondObject`); a list that is too short, after its bracket.
-/

namespace StubHttp.Track

/-! ## Problems -/

inductive Field where
  | artist
  | title
  deriving DecidableEq

def Field.name : Field → String
  | .artist => "artist"
  | .title => "title"

def Field.ofName? (name : String) : Option Field :=
  if name = "artist" then some .artist
  else if name = "title" then some .title
  else none

/-- What stands where something else was wanted. -/
inductive Found where
  | null
  | boolean (value : Bool)
  | number (value : Json.Number)
  | string (value : String)
  | list
  | object

def Found.description : Found → String
  | .null => "null"
  | .boolean true => "boolean `true`"
  | .boolean false => "boolean `false`"
  | .number (.integer i) => "integer `" ++ String.ofList (Json.integerText i) ++ "`"
  | .number (.double x) => "floating point `" ++ String.ofList (Json.doubleText x) ++ "`"
  | .string s => "string " ++ Text.quoted s
  | .list => "sequence"
  | .object => "map"

inductive Wanted where
  | list
  | track
  | string

def Wanted.description : Wanted → String
  | .list => "a sequence"
  | .track => "struct Track"
  | .string => "a string"

inductive Problem where
  | form (problem : Json.Problem)
  | wrongKind (found : Found) (wanted : Wanted)
  | missing (field : Field)
  | repeated (field : Field)
  | tooShort (length : Nat)

def Problem.message : Problem → String
  | .form problem => problem.message
  | .wrongKind found wanted =>
    "invalid type: " ++ found.description ++ ", expected " ++ wanted.description
  | .missing field => "missing field `" ++ field.name ++ "`"
  | .repeated field => "duplicate field `" ++ field.name ++ "`"
  | .tooShort length =>
    "invalid length " ++ toString length ++ ", expected struct Track with 2 elements"

/-! ## Readers -/

/-- What a reader of tracks gives, unless it gives up. -/
abbrev Attempt := Except (Json.Fault Problem)

/-- A reader of plain JSON, used as a part of a reader of tracks. -/
def ofJson {α : Type} (result : Json.Attempt α) : Attempt α :=
  result.mapError (·.map .form)

/-- Recognises a value that is not of the wanted kind. The text starts with the value. -/
def wrongKind (wanted : Wanted) (cs : List Char) : Json.Fault Problem :=
  let at_ (found : Found) (rest : List Char) : Json.Fault Problem :=
    .here (.wrongKind found wanted) rest
  let recognised : Json.Attempt (Json.Fault Problem) :=
    match cs with
    | [] => .error (.here .expectedValue [])
    | c :: rest =>
      if c = 'n' then (at_ .null) <$> Json.word ['u', 'l', 'l'] rest
      else if c = 't' then (at_ (.boolean true)) <$> Json.word ['r', 'u', 'e'] rest
      else if c = 'f' then (at_ (.boolean false)) <$> Json.word ['a', 'l', 's', 'e'] rest
      else if c = '-' then (fun (x, left) => at_ (.number x) left) <$> Json.number true rest
      else if c.isDigit then
        (fun (x, left) => at_ (.number x) left) <$> Json.number false (c :: rest)
      else if c = '"' then
        (fun (s, left) => at_ (.string (String.ofList s)) left) <$> Json.string rest
      else if c = '[' then .ok (at_ .list (c :: rest))
      else if c = '\x7b' then .ok (at_ .object (c :: rest))
      else .error (.next .expectedValue (c :: rest))
  match recognised with
  | .ok fault => fault
  | .error fault => fault.map .form

/-- The string that a field needs. -/
def text (cs : List Char) : Attempt (String × List Char) :=
  match Json.skipBlanks cs with
  | [] => .error (.here (.form .endInValue) [])
  | c :: rest =>
    if c = '"' then do
      let (s, left) ← ofJson (Json.string rest)
      return (String.ofList s, left)
    else .error (wrongKind .string (c :: rest))

/-! ## A list of two strings -/

/-- The next string of a list; the list must not be over after `length` of them. -/
def textItem (length : Nat) (cs : List Char) : Attempt (String × List Char) := do
  match ← ofJson (Json.item? (length = 0) cs) with
  | none => throw (.here (.tooShort length) (Json.afterClose cs))
  | some item => text item

/-- The end of a list that has all its items. -/
def endOfPair (cs : List Char) : Json.Attempt (List Char) :=
  match Json.skipBlanks cs with
  | [] => .error (.here .endInList [])
  | c :: rest =>
    if c = ']' then .ok rest
    else if c = ',' then
      match Json.skipBlanks rest with
      | [] => .error (.here .trailingCharacters [])
      | d :: left =>
        .error (.next (if d = ']' then .trailingComma else .trailingCharacters) (d :: left))
    else .error (.next .trailingCharacters (c :: rest))

/-- A track written as a list, after its bracket. -/
def pair (cs : List Char) : Attempt (Track × List Char) := do
  let (artist, cs) ← textItem 0 cs
  let (title, cs) ← textItem 1 cs
  let rest ← ofJson (endOfPair cs)
  return (⟨artist, title⟩, rest)

/-! ## An object with the two fields -/

structure Fields where
  artist : Option String
  title : Option String

def Fields.empty : Fields := ⟨none, none⟩

def Fields.get? (fields : Fields) : Field → Option String
  | .artist => fields.artist
  | .title => fields.title

def Fields.set (fields : Fields) (field : Field) (value : String) : Fields :=
  match field with
  | .artist => { fields with artist := some value }
  | .title => { fields with title := some value }

/-- The track with these fields, or the first of them that is missing. -/
def Fields.track (fields : Fields) : Except Field Track :=
  match fields.artist, fields.title with
  | none, _ => .error .artist
  | some _, none => .error .title
  | some artist, some title => .ok ⟨artist, title⟩

/-- Where an object that is given up is left: behind its brace if that comes next, else in
front of whatever does. -/
def beyondObject (cs : List Char) : List Char :=
  match Json.skipBlanks cs with
  | [] => []
  | c :: rest => if c = '\x7d' then rest else c :: rest

/-- The value of the member `name`, from its colon on. -/
def memberValue (fields : Fields) (name : String) (cs : List Char) :
    Attempt (Fields × List Char) := do
  match Field.ofName? name with
  | none =>
    let rest ← ofJson (Json.colon cs >>= Json.skip)
    return (fields, rest)
  | some field =>
    if (fields.get? field).isSome then throw (.here (.repeated field) (beyondObject cs))
    let (value, rest) ← text (← ofJson (Json.colon cs))
    return (fields.set field value, rest)

/-- The members of a track up to its brace. -/
def membersWithin : List Char → Bool → Fields → List Char → Attempt (Track × List Char)
  | [], _, _, _ => .error (.here (.form .endInObject) [])
  | _ :: bound, first, fields, cs => do
    match ← ofJson (Json.member? first cs) with
    | none =>
      match fields.track with
      | .ok track => return (track, Json.afterClose cs)
      | .error field => throw (.here (.missing field) (Json.afterClose cs))
    | some name =>
      let (key, cs) ← ofJson (Json.string name)
      let (fields, cs) ← memberValue fields (String.ofList key) cs
      membersWithin bound false fields cs

/-- A track written as an object, after its brace. -/
def object (cs : List Char) : Attempt (Track × List Char) :=
  membersWithin cs true .empty cs

/-! ## Lists of tracks -/

def element (cs : List Char) : Attempt (Track × List Char) :=
  match Json.skipBlanks cs with
  | [] => .error (.here (.form .endInValue) [])
  | c :: rest =>
    if c = '[' then pair rest
    else if c = '\x7b' then object rest
    else .error (wrongKind .track (c :: rest))

def elementsWithin : List Char → Bool → List Char → Attempt (List Track × List Char)
  | [], _, _ => .error (.here (.form .endInList) [])
  | _ :: bound, first, cs => do
    match ← ofJson (Json.item? first cs) with
    | none => return ([], Json.afterClose cs)
    | some item =>
      let (track, rest) ← element item
      let (tracks, left) ← elementsWithin bound false rest
      return (track :: tracks, left)

def readList (cs : List Char) : Attempt (List Track × List Char) :=
  match Json.skipBlanks cs with
  | [] => .error (.here (.form .endInValue) [])
  | c :: rest =>
    if c = '[' then elementsWithin rest true rest
    else .error (wrongKind .list (c :: rest))

def decodeListChars (cs : List Char) : Attempt (List Track) := do
  let (tracks, rest) ← readList cs
  ofJson (Json.finish rest)
  return tracks

def decodeList (s : String) : Except (Json.Located Problem) (List Track) :=
  (decodeListChars s.toList).mapError (·.locate s.toList)

end StubHttp.Track
