import StubHttp.Json.Lexeme

/-!
# Reading JSON values

`decode` reads a whole text as one value, blanks around it allowed. Arrays and
objects may nest `nestingLimit` deep; one level more is refused when its
bracket is seen. The members of an object come out in the order of their names
(`Value.ofMembers`).

The recursion into nested values is bounded by the levels that are left
(`valueWithin`). The readers of items and members go on for as long as a text
that is passed to them as a bound; since every item takes at least one
character, the text they read from is bound enough.
-/

namespace StubHttp.Json

/-- How deep arrays and objects may nest in a value that is kept. -/
def nestingLimit : Nat := 127

/-! ## Between the items -/

/-- The next item of a list, if there is one: the text from where it starts. The first item
stands behind the bracket, every other one behind a comma. -/
def item? (first : Bool) (cs : List Char) : Attempt (Option (List Char)) :=
  match skipBlanks cs with
  | [] => .error (.here .endInList [])
  | c :: rest =>
    if c = ']' then .ok none
    else if first then .ok (some (c :: rest))
    else if c = ',' then
      match skipBlanks rest with
      | [] => .error (.here .endInValue [])
      | d :: left =>
        if d = ']' then .error (.next .trailingComma (d :: left)) else .ok (some (d :: left))
    else .error (.next .expectedListEnd (c :: rest))

/-- The next member of an object, if there is one: the text after the quote of its name. -/
def member? (first : Bool) (cs : List Char) : Attempt (Option (List Char)) :=
  match skipBlanks cs with
  | [] => .error (.here .endInObject [])
  | c :: rest =>
    if c = '\x7d' then .ok none
    else if first then
      if c = '"' then .ok (some rest) else .error (.next .keyNotString (c :: rest))
    else if c = ',' then
      match skipBlanks rest with
      | [] => .error (.here .endInValue [])
      | d :: left =>
        if d = '"' then .ok (some left)
        else if d = '\x7d' then .error (.next .trailingComma (d :: left))
        else .error (.next .keyNotString (d :: left))
    else .error (.next .expectedObjectEnd (c :: rest))

/-- The colon between the name and the value of a member. -/
def colon (cs : List Char) : Attempt (List Char) :=
  match skipBlanks cs with
  | [] => .error (.here .endInObject [])
  | c :: rest => if c = ':' then .ok rest else .error (.next .expectedColon (c :: rest))

/-- What follows the bracket or brace that was seen to come next. -/
def afterClose (cs : List Char) : List Char :=
  (skipBlanks cs).drop 1

/-- The items of a list up to its end, the first of them or a later one coming next. -/
def itemsWithin {α : Type} (item : List Char → Attempt (α × List Char)) :
    List Char → Bool → List Char → Attempt (List α × List Char)
  | [], _, _ => .error (.here .endInList [])
  | _ :: bound, first, cs => do
    match ← item? first cs with
    | none => return ([], afterClose cs)
    | some text =>
      let (x, rest) ← item text
      let (xs, left) ← itemsWithin item bound false rest
      return (x :: xs, left)

/-- The members of an object up to its end, likewise. -/
def membersWithin {α : Type} (value : List Char → Attempt (α × List Char)) :
    List Char → Bool → List Char → Attempt (List (String × α) × List Char)
  | [], _, _ => .error (.here .endInObject [])
  | _ :: bound, first, cs => do
    match ← member? first cs with
    | none => return ([], afterClose cs)
    | some name =>
      let (key, afterKey) ← string name
      let (v, rest) ← value (← colon afterKey)
      let (ms, left) ← membersWithin value bound false rest
      return ((String.ofList key, v) :: ms, left)

/-! ## Values -/

/-- One value with at most `depth` levels of nesting. -/
def valueWithin (depth : Nat) (cs : List Char) : Attempt (Value × List Char) :=
  match skipBlanks cs with
  | [] => .error (.here .endInValue [])
  | c :: rest =>
    if c = 'n' then do
      let left ← word ['u', 'l', 'l'] rest
      return (.null, left)
    else if c = 't' then do
      let left ← word ['r', 'u', 'e'] rest
      return (.boolean true, left)
    else if c = 'f' then do
      let left ← word ['a', 'l', 's', 'e'] rest
      return (.boolean false, left)
    else if c = '"' then do
      let (s, left) ← string rest
      return (.string (String.ofList s), left)
    else if c = '-' then do
      let (x, left) ← number true rest
      return (.number x, left)
    else if c.isDigit then do
      let (x, left) ← number false (c :: rest)
      return (.number x, left)
    else if c = '[' then
      match depth with
      | 0 => .error (.next .tooDeep (c :: rest))
      | depth + 1 => do
        let (items, left) ← itemsWithin (valueWithin depth) rest true rest
        return (.array items, left)
    else if c = '\x7b' then
      match depth with
      | 0 => .error (.next .tooDeep (c :: rest))
      | depth + 1 => do
        let (members, left) ← membersWithin (valueWithin depth) rest true rest
        return (.ofMembers members, left)
    else .error (.next .expectedValue (c :: rest))

def read (cs : List Char) : Attempt (Value × List Char) :=
  valueWithin nestingLimit cs

/-! ## Whole texts -/

/-- Nothing but blanks may follow the value of a text. -/
def finish (cs : List Char) : Attempt Unit :=
  match skipBlanks cs with
  | [] => .ok ()
  | c :: rest => .error (.next .trailingCharacters (c :: rest))

def decodeChars (cs : List Char) : Attempt Value := do
  let (v, rest) ← read cs
  finish rest
  return v

def decode (text : String) : Except (Located Problem) Value :=
  (decodeChars text.toList).mapError (·.locate text.toList)

end StubHttp.Json
