import StubHttp.Server

/-!
# Commands, options and their help

The command line has the commands `serve`, `routes` and `help`. Only `serve`
takes options, each with a value. This module says how they are called and what
the help of each command prints.
-/

namespace StubHttp.CommandLine

def programName : String := "fixture-server"

def versionText : String := programName ++ " 0.1.0\n"

/-! ## Commands -/

/-- The program itself and the commands below it; each has a help of its own. -/
inductive Topic where
  | program
  | serve
  | routes
  | help
  deriving DecidableEq

/-- A command of the program, by its exact name. -/
def Topic.ofName? (name : String) : Option Topic :=
  if name = "serve" then some .serve
  else if name = "routes" then some .routes
  else if name = "help" then some .help
  else none

def commandNames : List String := ["serve", "routes", "help"]

/-! ## Options -/

inductive Opt where
  | host
  | port
  deriving DecidableEq

namespace Opt

/-- The name behind two dashes. -/
def long : Opt → String
  | .host => "host"
  | .port => "port"

/-- The letter behind one dash. -/
def short? : Opt → Option Char
  | .host => none
  | .port => some 'p'

/-- How the option is shown, with a name for its value. -/
def shown : Opt → String
  | .host => "--host <HOST>"
  | .port => "--port <PORT>"

end Opt

def Topic.options : Topic → List Opt
  | .serve => [.host, .port]
  | .program | .routes | .help => []

/-- The flags of a command, which take no value. -/
def Topic.flags : Topic → List String
  | .program => ["help", "version"]
  | .serve | .routes => ["help"]
  | .help => []

/-- All names that a command knows behind two dashes. -/
def Topic.longNames (t : Topic) : List String :=
  t.options.map Opt.long ++ t.flags

/-- How a name behind two dashes is shown in a usage line. -/
def Topic.shownName (t : Topic) (name : String) : String :=
  match t.options.find? (·.long = name) with
  | some o => o.shown
  | none => "--" ++ name

/-! ## Help -/

/-- What stands in front of a command's arguments. -/
def Topic.path : Topic → String
  | .program => programName
  | .serve => programName ++ " serve"
  | .routes => programName ++ " routes"
  | .help => programName ++ " help"

/-- The usage line of a command; once options have been used, the line that shows them. -/
def Topic.usage (t : Topic) (used : List String) : String :=
  let arguments := match used with
    | [] =>
      match t with
      | .program => [" [COMMAND]"]
      | .serve => [" [OPTIONS]"]
      | .routes => []
      | .help => [" [COMMAND]..."]
    | used => used.map (" " ++ ·)
  "Usage: " ++ t.path ++ String.join arguments

def Topic.about : Topic → String
  | .program => "Fixture Responder - canned JSON responses for HTTP test suites"
  | .serve => "Serve the fixture table over HTTP (default)"
  | .routes => "List the supported request paths"
  | .help => "Print this message or the help of the given subcommand(s)"

/-- The commands, arguments and options of a command, a line each. -/
def Topic.details : Topic → List String
  | .program =>
    ["Commands:",
      "  serve   " ++ Topic.about .serve,
      "  routes  " ++ Topic.about .routes,
      "  help    " ++ Topic.about .help,
      "",
      "Options:",
      "  -h, --help     Print help",
      "  -V, --version  Print version"]
  | .serve =>
    ["Options:",
      "      --host <HOST>  Address to listen on [default: 0.0.0.0]",
      "  -p, --port <PORT>  Port to listen on [default: 52001]",
      "  -h, --help         Print help"]
  | .routes =>
    ["Options:",
      "  -h, --help  Print help"]
  | .help =>
    ["Arguments:",
      "  [COMMAND]...  Print help for the subcommand(s)"]

def Topic.helpText (t : Topic) : String :=
  String.join (([t.about, "", t.usage [], ""] ++ t.details).map (· ++ "\n"))

/-! ## What a command line asks for -/

structure ServeOptions where
  host : String
  port : UInt16
  deriving DecidableEq

def ServeOptions.default : ServeOptions :=
  ⟨"0.0.0.0", defaultPort⟩

/-- What to do. Without a command, serving with the default options. -/
inductive Invocation where
  | noCommand
  | serve (options : ServeOptions)
  | routes
  deriving DecidableEq

end StubHttp.CommandLine
