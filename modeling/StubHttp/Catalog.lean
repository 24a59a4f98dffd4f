import StubHttp.Fixture

/-!
# Catalogs

A catalog is the ordered list of fixtures that a server answers from. It is
made once, from a list whose paths all begin with a slash, or not at all
(`Catalog.ofList?`), and is only read afterwards. Paths may repeat; a request
is answered by the first fixture whose path is the whole target, query
included (`Catalog.lookup`).
-/

namespace StubHttp

/-! ## Making a catalog -/

/-- Why a path cannot be served. -/
inductive PathFlaw where
  | empty
  | unrooted
  deriving DecidableEq

def PathFlaw.message : PathFlaw → String
  | .empty => "path is empty"
  | .unrooted => "path must start with '/'"

def PathFlaw.ofPath? (path : String) : Option PathFlaw :=
  match path.toList with
  | [] => some .empty
  | c :: _ => if c = '/' then none else some .unrooted

inductive FixtureError where
  | invalidPath (path : String) (flaw : PathFlaw)
  | undecodable (cause : Json.Located Json.Problem)
  | notTracks (cause : Json.Located Track.Problem)
  | unencodable (cause : Json.EncodeError)

def FixtureError.message : FixtureError → String
  | .invalidPath path flaw => "Invalid fixture path '" ++ path ++ "': " ++ flaw.message
  | .undecodable cause => "Serialization error: " ++ cause.message Json.Problem.message
  | .notTracks cause => "Serialization error: " ++ cause.message Track.Problem.message
  | .unencodable cause => "Serialization error: " ++ cause.message

/-- Fixtures in the order in which they are tried, each with a path that can be served. -/
structure Catalog where
  fixtures : List Fixture
  rooted : ∀ f ∈ fixtures, PathFlaw.ofPath? f.path = none
  deriving DecidableEq

namespace Catalog

/-- The first path of a list that cannot be served. -/
def firstFlaw? : List Fixture → Option (String × PathFlaw)
  | [] => none
  | f :: rest =>
    match PathFlaw.ofPath? f.path with
    | some flaw => some (f.path, flaw)
    | none => firstFlaw? rest

theorem rooted_of_firstFlaw?_eq_none {fs : List Fixture} (h : firstFlaw? fs = none) :
    ∀ f ∈ fs, PathFlaw.ofPath? f.path = none := by
  induction fs with
  | nil => simp
  | cons f rest ih =>
    cases hf : PathFlaw.ofPath? f.path with
    | none => simp_all [firstFlaw?]
    | some flaw => simp [firstFlaw?, hf] at h

/-- The catalog of these fixtures, unless one of them has a path that cannot be served. -/
def ofList? (fixtures : List Fixture) : Except FixtureError Catalog :=
  match h : firstFlaw? fixtures with
  | some (path, flaw) => .error (.invalidPath path flaw)
  | none => .ok ⟨fixtures, rooted_of_firstFlaw?_eq_none h⟩

def size (c : Catalog) : Nat :=
  c.fixtures.length

def isEmpty (c : Catalog) : Bool :=
  c.fixtures.isEmpty

/-! ## The built-in catalog -/

def trackListPath : String := "/json-1"

def builtInTracks : List Track :=
  [⟨"Fleetwood Mac", "Dreams"⟩, ⟨"Led Zepelin", "Communication Breakdown"⟩]

def builtIn : Catalog :=
  ⟨[⟨trackListPath, Track.printList builtInTracks, "Simple JSON request"⟩], by
    simp [trackListPath, PathFlaw.ofPath?]⟩

/-! ## Answering -/

/-- The first fixture whose path is the target. -/
def lookup (c : Catalog) (target : String) : Option Fixture :=
  c.fixtures.find? (·.path = target)

end Catalog

/-- The only method that is answered from the catalog. -/
def supportedMethod : String := "GET"

/-- Why a request is not answered with a fixture. -/
inductive Refusal where
  | unmapped (target : String)
  | unsupported (method : String)
  deriving DecidableEq

def Refusal.message : Refusal → String
  | .unmapped target => "No mapping for " ++ target
  | .unsupported method => "Unsupported method (" ++ method ++ ")"

/-- The fixture for a request. The method is looked at first, and compared by its exact text. -/
def Catalog.answer (c : Catalog) (method target : String) : Except Refusal Fixture :=
  if method = supportedMethod then
    match c.lookup target with
    | some f => .ok f
    | none => .error (.unmapped target)
  else
    .error (.unsupported method)

end StubHttp
