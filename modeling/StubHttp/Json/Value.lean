import StubHttp.Number.Binary64

/-!
# JSON values

A number is an integer or a finite double; the two are different values even
when they are equal as numbers, since they are written differently. An object
keeps its members in a list: the order is the order in which they are written,
and a name may occur twice. `Value.ofMembers` is the object that a text with
these members denotes: sorted by name, the last member of a name winning.
-/

namespace StubHttp.Json

inductive Number where
  | integer (value : Int)
  | double (value : Binary64)
  deriving DecidableEq

inductive Value where
  | null
  | boolean (value : Bool)
  | number (value : Number)
  | string (value : String)
  | array (items : List Value)
  | object (members : List (String × Value))

/-! ## Members in order of their names -/

/-- Puts a member into a list sorted by name, in place of one that has its name already.
Names are ordered by code point, which is the order of their UTF-8 bytes. -/
def insertMember (name : String) (value : Value) :
    List (String × Value) → List (String × Value)
  | [] => [(name, value)]
  | (n, v) :: rest =>
    if name = n then (name, value) :: rest
    else if name < n then (name, value) :: (n, v) :: rest
    else (n, v) :: insertMember name value rest

/-- The members sorted by name, of those with one name only the last. -/
def sortMembers (members : List (String × Value)) : List (String × Value) :=
  members.foldl (fun sorted m => insertMember m.1 m.2 sorted) []

def Value.ofMembers (members : List (String × Value)) : Value :=
  .object (sortMembers members)

end StubHttp.Json
