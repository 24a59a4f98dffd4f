import StubHttp.CommandLine.Usage
import StubHttp.CommandLine.PortNumber
import StubHttp.Text.Plain

/-!
# Reports about a command line

What can be wrong with a command line, and the report that is printed then: a
headline, tips, the usage of the command at hand where that helps, and a pointer
to its help.
-/

namespace StubHttp.CommandLine

inductive UsageError where
  /-- A word that should have been a command; names that resemble it. -/
  | unknownCommand (topic : Topic) (word : String) (similar : List String)
  /-- A word that has no place. -/
  | unknownArgument (topic : Topic) (word : String)
  /-- A name behind two dashes that the command does not know; the name that may have been
  meant; a command that comes later and knows such a name; what has been used so far. -/
  | unknownName (topic : Topic) (name : String) (similar : Option String)
      (elsewhere : Option (String × String)) (used : List String)
  /-- A command behind two dashes on their own. -/
  | needlessDashes (topic : Topic) (word : String)
  | surplusValue (topic : Topic) (flag value : String) (used : List String)
  | missingValue (option : Opt)
  | repeatedOption (topic : Topic) (option : Opt)
  | badPort (value : String) (problem : PortError)
  deriving DecidableEq

namespace UsageError

/-- What is wrong. The words that come from the command line are shown as `plain` makes them. -/
def headline (plain : String → String) : UsageError → String
  | .unknownCommand _ word _ => "unrecognized subcommand '" ++ plain word ++ "'"
  | .unknownArgument _ word => "unexpected argument '" ++ plain word ++ "' found"
  | .unknownName _ name _ _ _ => "unexpected argument '" ++ plain ("--" ++ name) ++ "' found"
  | .needlessDashes _ word => "unexpected argument '" ++ plain word ++ "' found"
  | .surplusValue _ flag value _ =>
    "unexpected value '" ++ plain value ++ "' for '--" ++ flag ++
      "' found; no more were expected"
  | .missingValue option =>
    "a value is required for '" ++ option.shown ++ "' but none was supplied"
  | .repeatedOption _ option =>
    "the argument '" ++ option.shown ++ "' cannot be used multiple times"
  | .badPort value problem =>
    "invalid value '" ++ plain value ++ "' for '" ++ Opt.port.shown ++ "': " ++ problem.message

def quoteAll (words : List String) : String :=
  String.intercalate ", " (words.map fun w => "'" ++ w ++ "'")

def tips : UsageError → List String
  | .unknownCommand _ _ [] => []
  | .unknownCommand _ _ [name] => ["a similar subcommand exists: '" ++ name ++ "'"]
  | .unknownCommand _ _ names => ["some similar subcommands exist: " ++ quoteAll names]
  | .unknownName _ _ (some name) _ _ => ["a similar argument exists: '--" ++ name ++ "'"]
  | .unknownName _ _ none (some (command, name)) _ =>
    ["'" ++ command ++ " --" ++ name ++ "' exists"]
  | .needlessDashes _ word =>
    ["subcommand '" ++ word ++ "' exists; to use it, remove the '--' before it"]
  | _ => []

/-- The usage line that is shown, if any. An error in a value shows none. -/
def usage? : UsageError → Option String
  | .unknownCommand topic _ _ => some (topic.usage [])
  | .unknownArgument topic _ => some (topic.usage [])
  | .unknownName topic _ _ _ used => some (topic.usage used)
  | .needlessDashes topic _ => some (topic.usage [])
  | .surplusValue topic _ _ used => some (topic.usage used)
  | .missingValue _ => none
  | .repeatedOption topic _ => some (topic.usage [])
  | .badPort _ _ => none

/-- Whether the command at hand has a help that the report can point to. -/
def hasHelp : UsageError → Bool
  | .unknownCommand topic _ _ => topic ≠ .help
  | _ => true

/-- The whole report, with the words of the command line as `plain` makes them. -/
def render (plain : String → String) (e : UsageError) : String :=
  let tips := match e.tips with
    | [] => ""
    | tips => "\n" ++ String.join (tips.map ("\n  tip: " ++ ·))
  let usage := e.usage?.elim "" ("\n\n" ++ ·)
  let pointer := if e.hasHelp then "\n\nFor more information, try '--help'.\n" else "\n"
  "error: " ++ e.headline plain ++ tips ++ usage ++ pointer

def report (e : UsageError) : String :=
  e.render (Text.plain true)

/-- The first line of the report, with control sequences that are not resumed. -/
def summary (e : UsageError) : String :=
  Text.firstLine (e.render (Text.plain false))

end UsageError

end StubHttp.CommandLine
