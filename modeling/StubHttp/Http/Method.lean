/-!
# Request methods

A method is a token: one or more letters, digits and marks from a fixed set.
Methods are told apart by their exact text, so `get` is not `GET`.
-/

namespace StubHttp.Http

def isTokenChar (c : Char) : Bool :=
  c.isAlphanum || "!#$%&'*+-.^_`|~".toList.contains c

structure Method where
  name : String
  isToken : name.toList ≠ [] ∧ name.toList.all isTokenChar = true
  deriving DecidableEq

def Method.ofString? (name : String) : Option Method :=
  if h : name.toList ≠ [] ∧ name.toList.all isTokenChar = true then some ⟨name, h⟩ else none

/-- The method that asks for the head of an answer only. -/
def Method.isHead (m : Method) : Bool :=
  m.name = "HEAD"

end StubHttp.Http
