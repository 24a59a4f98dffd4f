import StubHttp.Event

/-!
# Log filters

A filter decides which events are shown. It is a list of directives, each of
which sets a limit for the events it applies to; of the directives that apply
to an event the most specific one decides, and an event to which none applies
is not shown (`LogFilter.shows`).
-/

namespace StubHttp

/-- The least severe level that is let through, if any is. -/
abbrev Limit := Option Level

def Limit.admits (l : Limit) (level : Level) : Bool :=
  level.verbosity ≤ l.elim 0 Level.verbosity

/-- Which events of a target a directive is about. -/
inductive Scope where
  | all
  /-- Those that have a field of this name. -/
  | withField (name : String)
  /-- Those inside spans of some kind. The program opens no spans, so there are none. -/
  | inSpan
  deriving DecidableEq

structure Directive where
  /-- What the target of an event has to begin with. -/
  target : Option String
  scope : Scope
  limit : Limit
  deriving DecidableEq

/-! ## Deciding -/

namespace Directive

def appliesTo (d : Directive) (e : Event) : Bool :=
  d.target.all (e.origin.target.startsWith ·) &&
    match d.scope with
    | .all => true
    | .withField name => name = "message" || e.fields.any (·.1 = name)
    | .inSpan => false

def field? (d : Directive) : Option String :=
  match d.scope with
  | .withField name => some name
  | _ => none

/-- The length of the target; a directive without one comes below them all. -/
def reach (d : Directive) : Nat :=
  d.target.elim 0 (·.length + 1)

/-- Whether one directive gives way to another that applies to the same event. A longer target
is more specific, then a field, and fields give way in the order of their names. -/
def yieldsTo (d d' : Directive) : Bool :=
  d.reach < d'.reach ||
    (d.reach = d'.reach &&
      match d.field?, d'.field? with
      | none, _ => true
      | some _, none => false
      | some name, some name' => name ≤ name')

end Directive

structure LogFilter where
  directives : List Directive
  deriving DecidableEq

namespace LogFilter

/-- The most specific of some directives; of two that are equally specific, the later one. -/
def mostSpecific? (ds : List Directive) : Option Directive :=
  ds.foldl (fun best d =>
    match best with
    | none => some d
    | some b => if b.yieldsTo d then some d else some b) none

def deciding? (f : LogFilter) (e : Event) : Option Directive :=
  mostSpecific? (f.directives.filter (·.appliesTo e))

def shows (f : LogFilter) (e : Event) : Bool :=
  (f.deciding? e).any (·.limit.admits e.level)

end LogFilter

end StubHttp
