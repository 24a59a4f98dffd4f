import StubHttp.Pattern.Sets
import StubHttp.Text.Alphanumeric

/-!
# Patterns: groups and whole patterns

A group stands in parentheses. It may have a name, or flags that hold for it;
flags in parentheses of their own hold up to the end of the group around them.
A pattern is read from left to right, with the flags of the groups that are open
to come back to.
-/

namespace StubHttp.Pattern

/-- What an opening parenthesis begins. -/
inductive Opening where
  | group (flags : Flags)
  | namedGroup (name : List Char)
  /-- Flags alone, with their closing parenthesis. -/
  | flags (flags : Flags)

/-- The name of a group begins with a letter or an underscore; digits, dots and brackets may
follow. -/
def isGroupName : List Char → Bool
  | [] => false
  | c :: cs =>
    (c == '_' || Text.isAlphabetic c) &&
      cs.all fun c => c == '_' || c == '.' || c == '[' || c == ']' || Text.isAlphanumeric c

/-- The name of a group up to the closing angle bracket. -/
def groupName? (cs : List Char) : Option (Opening × List Char) :=
  let name := cs.takeWhile (· ≠ '>')
  match cs.drop name.length with
  | _ :: rest => if isGroupName name then some (.namedGroup name, rest) else none
  | [] => none

/-- What begins behind an opening parenthesis, and what follows. -/
def opening? (f : Flags) (cs : List Char) : Option (Opening × List Char) :=
  match f.skip cs with
  | '?' :: 'P' :: '<' :: cs => groupName? cs
  | '?' :: '<' :: cs => groupName? cs
  | '?' :: cs =>
    let word := cs.takeWhile fun c => c ≠ ':' ∧ c ≠ ')'
    match f.switch? word, cs.drop word.length with
    | some f, ':' :: rest => some (.group f, rest)
    | some f, ')' :: rest => if word.isEmpty then none else some (.flags f, rest)
    | _, _ => none
  | cs => some (.group f, cs)

structure Position where
  flags : Flags
  /-- The flags outside the groups that are open, the innermost group first. -/
  outside : List Flags
  /-- The names of groups so far. -/
  names : List (List Char)
  /-- Whether something stands before that can be repeated. -/
  repeatable : Bool

namespace Position

def start : Position :=
  ⟨.default, [], [], false⟩

/-- Behind something that can be repeated. -/
def behindItem (p : Position) : Position :=
  { p with repeatable := true }

/-- Behind an opening; the name of a group must be new. -/
def enter? (p : Position) : Opening → Option Position
  | .group f => some { p with flags := f, outside := p.flags :: p.outside, repeatable := false }
  | .namedGroup name =>
    if name ∈ p.names then none
    else some ⟨p.flags, p.flags :: p.outside, name :: p.names, false⟩
  | .flags f => some { p with flags := f, repeatable := false }

def leave? (p : Position) : Option Position :=
  match p.outside with
  | [] => none
  | f :: outside => some ⟨f, outside, p.names, true⟩

/-- Reads one piece that begins with `c`: the position behind it, and what follows. Numbers of
repetitions in braces are not for this reader. -/
def step? (p : Position) (c : Char) (cs : List Char) : Option (Position × List Char) :=
  match c with
  | '(' => do
    let (opening, rest) ← opening? p.flags cs
    return (← p.enter? opening, rest)
  | ')' => p.leave?.map (·, cs)
  | '|' => some ({ p with repeatable := false }, cs)
  | '[' => (set? p.flags cs).map (p.behindItem, ·)
  | '?' | '*' | '+' =>
    if p.repeatable then
      match cs with
      | '?' :: rest => some (p, rest)
      | rest => some (p, rest)
    else none
  | '\x7b' => none
  | '\\' => do
    let (escape, rest) ← escape? p.flags cs
    if p.flags.admitEscape escape then some (p.behindItem, rest) else none
  | '.' => if p.flags.unicode then some (p.behindItem, cs) else none
  | '^' | '$' => some (p.behindItem, cs)
  | c => if p.flags.admitChar c false then some (p.behindItem, cs) else none

/-- Whether a text can be read to its end with all groups closed. Every step reads a character at
least, so the text itself bounds the steps. -/
def reachesEnd : (bound : List Char) → Position → List Char → Bool
  | bound, p, cs =>
    match p.flags.skip cs, bound with
    | [], _ => p.outside.isEmpty
    | _ :: _, [] => false
    | c :: cs, _ :: bound =>
      match p.step? c cs with
      | some (p, rest) => reachesEnd bound p rest
      | none => false

end Position

def isValid (cs : List Char) : Bool :=
  Position.start.reachesEnd cs cs

end StubHttp.Pattern
