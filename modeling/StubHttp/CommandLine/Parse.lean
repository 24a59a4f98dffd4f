import StubHttp.CommandLine.Report
import StubHttp.Text.Similarity

/-!
# Reading a command line

The words of a command line are read in order, and the first that settles the
matter does: a flag that asks for help or the version, a word that has no
place, or a value that is missing, repeated or wrong. An option may have its
value in the same word, in which case it is settled at once. A value in the
word behind it stays pending, and is settled only when the next option or flag
comes or the words are over; so a word without a place is reported before a
pending value is looked at.
-/

namespace StubHttp.CommandLine

/-- Why a command line is not carried out: it asks for help or for the version, or it is
wrong. -/
inductive Stop where
  | help (topic : Topic)
  | version
  | invalid (error : UsageError)
  deriving DecidableEq

/-! ## Words -/

/-- What the form of a word makes of it. -/
inductive Word where
  /-- Two dashes alone: nothing behind them is an option. -/
  | dashes
  /-- Two dashes and a name, perhaps with a value behind an equals sign. -/
  | long (name : String) (value : Option String)
  /-- One dash and letters. -/
  | short (letters : List Char)
  | plain (word : String)

def Word.ofString (s : String) : Word :=
  match s.toList with
  | ['-', '-'] => .dashes
  | '-' :: '-' :: cs =>
    let name := cs.takeWhile (· ≠ '=')
    let value := match cs.drop name.length with
      | _ :: value => some (String.ofList value)
      | [] => none
    .long (String.ofList name) value
  | '-' :: c :: cs => .short (c :: cs)
  | _ => .plain s

/-! ## Names that may have been meant -/

/-- The command that comes first among the words and knows a name close to `name`. -/
def elsewhere? (name : String) : List String → Option (String × String)
  | [] => none
  | w :: ws =>
    match Topic.ofName? w with
    | some topic =>
      match (Text.closeWords name topic.longNames).getLast? with
      | some close => some (w, close)
      | none => elsewhere? name ws
    | none => elsewhere? name ws

/-- The error about a name that a command does not know, `used` and `rest` being the options
before it and the words behind it. The name that may have been meant counts as used. -/
def unknownName (topic : Topic) (name : String) (used : List Opt) (rest : List String) :
    UsageError :=
  let similar := (Text.closeWords name topic.longNames).getLast?
  let elsewhere := if topic = .program then elsewhere? name rest else none
  let shown := used.map Opt.shown ++ (similar.map topic.shownName).toList
  .unknownName topic name similar elsewhere shown.eraseDups

/-- The error about a value given to a flag of a command, `used` being the options settled
before. Once there are any, the usage line offers the choice between all options. -/
def surplusValue (topic : Topic) (flag value : String) (used : List Opt) : UsageError :=
  let choice := "<" ++ String.intercalate "|" (topic.options.map Opt.shown) ++ ">"
  .surplusValue topic flag value
    (topic.shownName flag :: if used.isEmpty then [] else [choice])

/-! ## Options -/

/-- The options settled so far, in order, with their values, and one that is pending: its value
may still have to come. -/
structure Progress where
  given : List Opt
  options : ServeOptions
  pending : Option (Opt × Option String)

def Progress.start : Progress :=
  ⟨[], .default, none⟩

def Progress.assign (p : Progress) (topic : Topic) (o : Opt) (value : String) :
    Except Stop Progress :=
  if o ∈ p.given then .error (.invalid (.repeatedOption topic o))
  else
    match o with
    | .host => .ok { p with given := p.given ++ [o], options.host := value }
    | .port =>
      match portNumber value with
      | .ok n => .ok { p with given := p.given ++ [o], options.port := n }
      | .error e => .error (.invalid (.badPort value e))

def Progress.settle (p : Progress) (topic : Topic) : Except Stop Progress :=
  match p.pending with
  | none => .ok p
  | some (o, none) => .error (.invalid (.missingValue o))
  | some (o, some value) => { p with pending := none }.assign topic o value

/-- The options that count as used when a report is made: those settled before, and the pending
one if its value has come, be it right or wrong. An option that comes again takes back its first
use. -/
def Progress.used (p : Progress) : List Opt :=
  match p.pending with
  | some (o, some _) => if o ∈ p.given then p.given.erase o else p.given ++ [o]
  | _ => p.given

/-- Takes up an option, with its value if that stands in the same word. -/
def Progress.take (p : Progress) (topic : Topic) (o : Opt) (value : Option String) :
    Except Stop Progress := do
  let p ← p.settle topic
  match value with
  | some value => p.assign topic o value
  | none => return { p with pending := some (o, none) }

/-- Help is given once the pending option is settled. -/
def Progress.help (p : Progress) (topic : Topic) : Except Stop Progress := do
  let _ ← p.settle topic
  throw (.help topic)

/-- A name behind two dashes, `rest` being the words behind it. -/
def Progress.long (p : Progress) (topic : Topic) (name : String) (value : Option String)
    (rest : List String) : Except Stop Progress :=
  match topic.options.find? (·.long = name) with
  | some o => p.take topic o value
  | none =>
    if name = "help" then
      match value with
      | none => p.help topic
      | some value => .error (.invalid (surplusValue topic name value p.given))
    else .error (.invalid (unknownName topic name p.used rest))

/-- The letters behind one dash; what follows the letter of an option is its value. -/
def Progress.short (p : Progress) (topic : Topic) : List Char → Except Stop Progress
  | [] => .ok p
  | c :: cs =>
    match topic.options.find? (·.short? = some c) with
    | some o =>
      match cs with
      | [] => p.take topic o none
      | '=' :: value => p.take topic o (some (String.ofList value))
      | value => p.take topic o (some (String.ofList value))
    | none =>
      if c = 'h' then p.help topic
      else .error (.invalid (.unknownArgument topic (String.ofList ['-', c])))

/-- The words of a command that takes options. -/
def Progress.words (p : Progress) (topic : Topic) : List String → Except Stop Progress
  | [] => p.settle topic
  | w :: rest =>
    match Word.ofString w with
    | .dashes =>
      match rest with
      | [] => p.settle topic
      | x :: _ => .error (.invalid (.unknownArgument topic x))
    | .long name value => do (← p.long topic name value rest).words topic rest
    | .short letters => do (← p.short topic letters).words topic rest
    | .plain word =>
      match p.pending with
      | some (o, none) => { p with pending := some (o, some word) }.words topic rest
      | _ => .error (.invalid (.unknownArgument topic word))

/-! ## Commands -/

/-- The command whose help is asked for by these words, from a command on. -/
def helpTopic (topic : Topic) : List String → Except Stop Topic
  | [] => .ok topic
  | w :: rest =>
    match topic, Topic.ofName? w with
    | .program, some command => helpTopic command rest
    | _, _ => .error (.invalid (.unknownCommand topic w []))

def command (topic : Topic) (words : List String) : Except Stop Invocation := do
  match topic with
  | .program => return .noCommand
  | .serve => return .serve (← Progress.start.words .serve words).options
  | .routes => do
    let _ ← Progress.start.words .routes words
    return .routes
  | .help => throw (.help (← helpTopic .program words))

/-- The error about a word that is no command. -/
def unknownCommand (word : String) : UsageError :=
  .unknownCommand .program word (Text.closeWords word commandNames)

/-- A whole command line, without the name of the program. -/
def parse : List String → Except Stop Invocation
  | [] => .ok .noCommand
  | w :: rest =>
    match Topic.ofName? w with
    | some topic => command topic rest
    | none =>
      match Word.ofString w with
      | .dashes =>
        match rest with
        | [] => .ok .noCommand
        | x :: _ =>
          .error (.invalid
            (if (Topic.ofName? x).isSome then .needlessDashes .program x else unknownCommand x))
      | .long name value =>
        match value with
        | none =>
          if name = "help" then .error (.help .program)
          else if name = "version" then .error .version
          else .error (.invalid (unknownName .program name [] rest))
        | some value =>
          if name ∈ Topic.flags .program then
            .error (.invalid (surplusValue .program name value []))
          else .error (.invalid (unknownName .program name [] rest))
      | .short letters =>
        match letters with
        | 'h' :: _ => .error (.help .program)
        | 'V' :: _ => .error .version
        | c :: _ => .error (.invalid (.unknownArgument .program (String.ofList ['-', c])))
        | [] => .error (.invalid (unknownCommand w))
      | .plain word => .error (.invalid (unknownCommand word))

end StubHttp.CommandLine
