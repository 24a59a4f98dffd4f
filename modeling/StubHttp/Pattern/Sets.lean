import StubHttp.Pattern.Basic

/-!
# Patterns: sets of characters

A set stands in brackets. It lists characters, ranges, classes and further
sets, may be negated, and may be combined with what follows by an operation.
While bytes are matched, a set must not reach beyond ASCII in the end; whether
it does is all that is kept of it, since the bytes beyond ASCII only come and
go together.
-/

namespace StubHttp.Pattern

inductive SetOperation where
  | intersection
  | difference
  | symmetricDifference

/-- Whether the result reaches beyond ASCII, when the two sides do or do not. -/
def SetOperation.apply : SetOperation → Bool → Bool → Bool
  | .intersection, l, r => l && r
  | .difference, l, r => l && !r
  | .symmetricDifference, l, r => l != r

structure OpenSet where
  negated : Bool
  /-- An operation that waits for its right side, and whether its left side reaches beyond
  ASCII. -/
  waiting : Option (SetOperation × Bool)
  /-- Whether something listed since reaches beyond ASCII. -/
  beyond : Bool

namespace OpenSet

/-- Whether what has been read reaches beyond ASCII, negation apart. -/
def reaches (s : OpenSet) : Bool :=
  match s.waiting with
  | some (operation, left) => operation.apply left s.beyond
  | none => s.beyond

/-- Whether the set, once closed, reaches beyond ASCII. -/
def closed (s : OpenSet) : Bool :=
  s.reaches != s.negated

def add (s : OpenSet) (beyond : Bool) : OpenSet :=
  { s with beyond := s.beyond || beyond }

def operate (s : OpenSet) (operation : SetOperation) : OpenSet :=
  { s with waiting := some (operation, s.reaches), beyond := false }

end OpenSet

/-! ## Members -/

def asciiClasses : List String :=
  ["alnum", "alpha", "ascii", "blank", "cntrl", "digit", "graph", "lower", "print", "punct",
    "space", "upper", "word", "xdigit"]

/-- A class of ASCII characters by its name between colons, behind an opening bracket: whether it
is the complement, and what follows. -/
def asciiClass? : List Char → Option (Bool × List Char)
  | ':' :: cs =>
    let (isComplement, cs) := match cs with
      | '^' :: cs => (true, cs)
      | cs => (false, cs)
    let name := cs.takeWhile (· ≠ ':')
    match cs.drop name.length with
    | ':' :: ']' :: rest =>
      if String.ofList name ∈ asciiClasses then some (isComplement, rest) else none
    | _ => none
  | _ => none

/-- A single member, and what follows. -/
def member? (f : Flags) : List Char → Option (Escape × List Char)
  | [] => none
  | '\\' :: cs => escape? f cs
  | c :: cs => some (.char c false, cs)

/-- The character that is found behind a hyphen; a number sign is looked past once. -/
def behindHyphen? (f : Flags) (cs : List Char) : Option Char :=
  if f.verbose then
    match cs.dropWhile Text.isWhiteSpace with
    | '#' :: cs => (cs.dropWhile Text.isWhiteSpace).head?
    | cs => cs.head?
  else cs.head?

/-- A member or a range of members: what follows it. A hyphen that ends a set or belongs to an
operation makes no range. -/
def range? (f : Flags) (cs : List Char) : Option (List Char) := do
  let (first, rest) ← member? f cs
  let single := match first with
    | .char c _ => f.admitMember c
    | .class isComplement => f.admitClass isComplement
    | .wordEdge | .textEdge => false
  match f.skip rest with
  | [] => none
  | '-' :: behind =>
    if behindHyphen? f behind = some ']' ∨ behindHyphen? f behind = some '-' then
      if single then some ('-' :: behind) else none
    else
      let (last, rest) ← member? f (f.skip behind)
      match first, last with
      | .char c _, .char d _ =>
        if c ≤ d ∧ f.admitMember c ∧ f.admitMember d then some rest else none
      | _, _ => none
  | rest => if single then some rest else none

/-! ## Whole sets -/

/-- What follows any number of hyphens and, where they mean nothing, blanks and comments. -/
def skipHyphens (f : Flags) : (inComment : Bool) → List Char → List Char
  | _, [] => []
  | true, c :: cs => skipHyphens f (c ≠ '\n') cs
  | false, c :: cs =>
    if c = '-' then skipHyphens f false cs
    else if f.verbose ∧ c = '#' then skipHyphens f true cs
    else if f.verbose ∧ Text.isWhiteSpace c then skipHyphens f false cs
    else c :: cs

/-- The beginning of a set, behind its opening bracket. A caret negates it; hyphens, or else one
closing bracket, are members. -/
def openSet? (f : Flags) (cs : List Char) : Option (OpenSet × List Char) :=
  let (negated, cs) := match f.skip cs with
    | '^' :: cs => (true, f.skip cs)
    | cs => (false, cs)
  let set := ⟨negated, none, false⟩
  match cs with
  | '-' :: cs => if f.admitMember '-' then some (set, skipHyphens f false cs) else none
  | ']' :: cs => if f.admitMember ']' then some (set, cs) else none
  | cs => some (set, cs)

/-- The rest of a set inside further sets, the innermost of them first: what follows them all.
Every step reads a character at least, so the text itself bounds the steps. -/
def setsEnd? (f : Flags) : (bound : List Char) → OpenSet → List OpenSet → List Char →
    Option (List Char)
  | [], _, _, _ => none
  | _ :: bound, set, outer, cs =>
    match f.skip cs with
    | [] => none
    | '[' :: cs =>
      match asciiClass? cs with
      | some (isComplement, rest) =>
        if f.unicode ∧ f.eitherCase then none
        else setsEnd? f bound (set.add isComplement) outer rest
      | none =>
        match openSet? f cs with
        | some (inner, rest) => setsEnd? f bound inner (set :: outer) rest
        | none => none
    | ']' :: cs =>
      if set.closed ∧ !f.unicode then none
      else
        match outer with
        | [] => some cs
        | next :: outer => setsEnd? f bound (next.add set.closed) outer cs
    | '&' :: '&' :: cs => setsEnd? f bound (set.operate .intersection) outer cs
    | '-' :: '-' :: cs => setsEnd? f bound (set.operate .difference) outer cs
    | '~' :: '~' :: cs => setsEnd? f bound (set.operate .symmetricDifference) outer cs
    | cs =>
      match range? f cs with
      | some rest => setsEnd? f bound set outer rest
      | none => none

/-- A set, behind its opening bracket: what follows it. -/
def set? (f : Flags) (cs : List Char) : Option (List Char) :=
  match openSet? f cs with
  | some (set, rest) => setsEnd? f cs set [] rest
  | none => none

end StubHttp.Pattern
