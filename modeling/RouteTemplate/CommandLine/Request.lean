import RouteTemplate.CommandLine.Options

set_option autoImplicit false

namespace RouteTemplate.CommandLine

inductive GlobalOption where
  | version
  | help
  | json
  | plain
  | noColor
  | quiet
  | verbose
  | strict (on : Bool)
deriving Repr, DecidableEq

def globalSwitches : Switches GlobalOption :=
  [("--version", .alone .version), ("--help", .alone .help), ("--json", .alone .json), ("--plain", .alone .plain),
    ("--no-color", .alone .noColor), ("--quiet", .alone .quiet), ("-q", .alone .quiet),
    ("--verbose", .alone .verbose), ("-v", .alone .verbose), ("--strict", .alone (.strict true)),
    ("--lenient", .alone (.strict false))]

structure Globals where
  json : Bool := false
  plain : Bool := false
  noColor : Bool := false
  quiet : Bool := false
  verbose : Bool := false
  strict : Option Bool := none
deriving Repr, DecidableEq

namespace Globals

/-- Adds an option; of several choices between strict and lenient the last counts. -/
def add (globals : Globals) : GlobalOption → Globals
  | .version | .help => globals
  | .json => { globals with json := true }
  | .plain => { globals with plain := true }
  | .noColor => { globals with noColor := true }
  | .quiet => { globals with quiet := true }
  | .verbose => { globals with verbose := true }
  | .strict on => { globals with strict := some on }

def ofOptions (options : List GlobalOption) : Globals := options.foldl add {}

end Globals

inductive Command where
  | resolve (template : Text) (parameters : List Text) (base : Option Text)
  | inspect (template : Text)
  | showSettings
  | set (key value : Text)
  | reset (force : Bool)
deriving Repr, DecidableEq

inductive Asked where
  | help (code : Int)
  | misuse
  | command (c : Command)
deriving Repr, DecidableEq

inductive Request where
  | version
  | help (code : Int)
  | misuse
  | start (globals : Globals) (asked : Asked)
deriving Repr, DecidableEq

inductive ResolveOption where
  | help
  | parameter (entry : Text)
  | base (url : Text)
deriving Repr, DecidableEq

def resolveSwitches : Switches ResolveOption :=
  [("--help", .alone .help), ("--param", .valued .parameter), ("-p", .valued .parameter),
    ("--base-url", .valued .base), ("-b", .valued .base)]

inductive HelpOption where
  | help
deriving Repr, DecidableEq

def helpSwitches : Switches HelpOption := [("--help", .alone .help)]

inductive ResetOption where
  | help
  | force
deriving Repr, DecidableEq

def resetSwitches : Switches ResetOption :=
  [("--help", .alone .help), ("--force", .alone .force), ("-f", .alone .force)]

namespace Asked

/-- Reads the arguments of a command, given its options, the one of them that asks for help, and what the
options and the other arguments make. -/
def ofCommand {α : Type} [DecidableEq α] (known : Switches α) (help : α)
    (make : List α → List Text → Option Command) (arguments : List Text) : Asked :=
  match known.read true arguments with
  | none => .misuse
  | some (options, others) =>
    if help ∈ options then .help 0
    else
      match make options others with
      | none => .misuse
      | some c => .command c

def parameters (options : List ResolveOption) : List Text :=
  options.filterMap fun option => match option with
    | .parameter entry => some entry
    | _ => none

/-- The base given last. -/
def base? (options : List ResolveOption) : Option Text :=
  (options.filterMap fun option => match option with
    | .base url => some url
    | _ => none).getLast?

def resolve : List Text → Asked :=
  ofCommand resolveSwitches .help fun options others => match others with
    | [template] => some (.resolve template (parameters options) (base? options))
    | _ => none

def inspect : List Text → Asked :=
  ofCommand helpSwitches .help fun _ others => match others with
    | [template] => some (.inspect template)
    | _ => none

def showSettings : List Text → Asked :=
  ofCommand helpSwitches .help fun _ others => match others with
    | [] => some .showSettings
    | _ => none

def set : List Text → Asked :=
  ofCommand helpSwitches .help fun _ others => match others with
    | [key, value] => some (.set key value)
    | _ => none

def reset : List Text → Asked :=
  ofCommand resetSwitches .help fun options others => match others with
    | [] => some (.reset (decide (ResetOption.force ∈ options)))
    | _ => none

def settingsReaders : List (Text × (List Text → Asked)) := [("show", showSettings), ("set", set), ("reset", reset)]

/-- Reads the arguments of the group of commands on settings. Options may follow a name that is no command. -/
def settings (arguments : List Text) : Asked :=
  if arguments.isEmpty then .help 2
  else
    match helpSwitches.read false arguments with
    | none => .misuse
    | some (_ :: _, _) => .help 0
    | some ([], []) => .misuse
    | some ([], name :: rest) =>
      match Table.get? name settingsReaders with
      | some reader => reader rest
      | none =>
        match helpSwitches.read false (name :: rest) with
        | some (_ :: _, _) => .help 0
        | _ => .misuse

def readers : List (Text × (List Text → Asked)) := [("resolve", resolve), ("inspect", inspect), ("config", settings)]

end Asked

namespace Request

/-- The first option that asks for the version or for help. -/
def notice? : List GlobalOption → Option Request
  | [] => none
  | .version :: _ => some version
  | .help :: _ => some (help 0)
  | _ :: options => notice? options

/-- Reads the arguments of the program. Without any, help is asked for. Options may follow a name that is no
command. -/
def read (arguments : List Text) : Request :=
  if arguments.isEmpty then help 2
  else
    match globalSwitches.read false arguments with
    | none => misuse
    | some (options, rest) =>
      match notice? options, rest with
      | some notice, _ => notice
      | none, [] => misuse
      | none, name :: others =>
        match Table.get? name Asked.readers with
        | some reader => start (Globals.ofOptions options) (reader others)
        | none =>
          match globalSwitches.read false (name :: others) with
          | some (options, _) => (notice? options).getD misuse
          | none => misuse

end Request

end RouteTemplate.CommandLine
