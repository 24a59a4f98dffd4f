import StubHttp.Json.Reader

/-!
# Passing over JSON values

`skip` passes over one value that nobody wants. The value must be well formed,
but nothing of it is kept, so it may nest without limit, and its strings and
numbers are held only to the rules of `skipString` and `skipNumber`. It is less
particular in its wording too: a comma before a closing bracket is told as the
value or the name that is missing there.
-/

namespace StubHttp.Json

/-- Whether another item of a list follows, and the text it is to be read from. -/
def skipItem? (first : Bool) (cs : List Char) :
    Attempt (Option (List Char)) :=
  match skipBlanks cs with
  | [] => .error (.here .endInList [])
  | c :: rest =>
    if c = ']' then .ok none
    else if first then .ok (some (c :: rest))
    else if c = ',' then .ok (some rest)
    else .error (.next .expectedListEnd (c :: rest))

/-- Whether another member of an object follows, and the text it is to be read from. -/
def skipMember? (first : Bool) (cs : List Char) :
    Attempt (Option (List Char)) :=
  match skipBlanks cs with
  | [] => .error (.here .endInObject [])
  | c :: rest =>
    if c = '\x7d' then .ok none
    else if first then .ok (some (c :: rest))
    else if c = ',' then .ok (some rest)
    else .error (.next .expectedObjectEnd (c :: rest))

def skipName (cs : List Char) : Attempt (List Char) :=
  match skipBlanks cs with
  | [] => .error (.here .endInObject [])
  | c :: rest =>
    if c = '"' then do colon (← skipString rest)
    else .error (.next .keyNotString (c :: rest))

def skipItemsWithin (skipOne : List Char → Attempt (List Char)) :
    List Char → Bool → List Char → Attempt (List Char)
  | [], _, _ => .error (.here .endInList [])
  | _ :: bound, first, cs => do
    match ← skipItem? first cs with
    | none => return afterClose cs
    | some item => skipItemsWithin skipOne bound false (← skipOne item)

def skipMembersWithin (skipOne : List Char → Attempt (List Char)) :
    List Char → Bool → List Char → Attempt (List Char)
  | [], _, _ => .error (.here .endInObject [])
  | _ :: bound, first, cs => do
    match ← skipMember? first cs with
    | none => return afterClose cs
    | some member =>
      skipMembersWithin skipOne bound false (← skipOne (← skipName member))

/-- Passes over one value; a bracket takes a character of the bound as well as of the text. -/
def skipWithin : List Char → List Char → Attempt (List Char)
  | [], _ => .error (.here .endInValue [])
  | _ :: bound, cs =>
    match skipBlanks cs with
    | [] => .error (.here .endInValue [])
    | c :: rest =>
      if c = 'n' then word ['u', 'l', 'l'] rest
      else if c = 't' then word ['r', 'u', 'e'] rest
      else if c = 'f' then word ['a', 'l', 's', 'e'] rest
      else if c = '"' then skipString rest
      else if c = '-' then skipNumber rest
      else if c.isDigit then skipNumber (c :: rest)
      else if c = '[' then skipItemsWithin (skipWithin bound) bound true rest
      else if c = '\x7b' then skipMembersWithin (skipWithin bound) bound true rest
      else .error (.next .expectedValue (c :: rest))

def skip (cs : List Char) : Attempt (List Char) :=
  skipWithin cs cs

end StubHttp.Json
