import QueryMenu.Config.Load
import QueryMenu.Json.Printer
import QueryMenu.Replay.Run

namespace QueryMenu

/-! The command that replays a script and prints the resulting queries.

What the command does is a function of its arguments and of what is found under the paths
that it asks for.
-/

namespace CommandLine

structure Arguments where
  script : String
  /-- The directory of the configuration file. -/
  config : Option String := none
  verbose : Bool := false
deriving DecidableEq, Repr

inductive Request where
  | replay (arguments : Arguments)
  | help
  /-- The arguments do not fit the command. -/
  | misuse
deriving DecidableEq, Repr

structure Draft where
  script : Option String := none
  config : Option String := none
  verbose : Bool := false

/-- An argument that can only be the value of an option or the script. -/
def isValue (argument : String) : Bool :=
  argument = "-" || argument.toList.head? ≠ some '-'

namespace Draft

def finish (draft : Draft) : Request :=
  match draft.script with
  | some script => .replay ⟨script, draft.config, draft.verbose⟩
  | none => .misuse

/-- A path is given once and is not empty. -/
def withScript (draft : Draft) (path : String) : Option Draft :=
  if path = "" ∨ draft.script.isSome then none else some { draft with script := some path }

def withConfig (draft : Draft) (path : String) : Option Draft :=
  if path = "" ∨ draft.config.isSome then none else some { draft with config := some path }

def withVerbose (draft : Draft) : Option Draft :=
  if draft.verbose then none else some { draft with verbose := true }

end Draft

/-- What a cluster of one-letter options leaves to do. -/
inductive Cluster where
  | done (draft : Draft)
  /-- The last letter takes its value from the next argument. -/
  | config (draft : Draft)
  | help
  | misuse

def cluster (draft : Draft) : List Char → Cluster
  | [] => .done draft
  | 'v' :: rest =>
    match draft.withVerbose with
    | some draft => cluster draft rest
    | none => .misuse
  | 'h' :: _ => .help
  | ['c'] => .config draft
  | 'c' :: value =>
    let value := if value.head? = some '=' then value.drop 1 else value
    match draft.withConfig (String.ofList value) with
    | some draft => .done draft
    | none => .misuse
  | _ => .misuse

/-- Goes on with a draft, if the argument before it was acceptable. -/
def orMisuse (draft : Option Draft) (next : Draft → Request) : Request :=
  match draft with
  | some draft => next draft
  | none => .misuse

/-- Reads arguments that stand behind a double hyphen. -/
def parsePlain (draft : Draft) : List String → Request
  | [] => draft.finish
  | path :: rest => orMisuse (draft.withScript path) fun draft => parsePlain draft rest

/-- The directory of an option such as `--config=DIR`. -/
def attachedConfig? (argument : String) : Option String :=
  let lead := "--config=".toList
  if argument.toList.take lead.length = lead then
    some (String.ofList (argument.toList.drop lead.length))
  else none

def parseFrom (draft : Draft) : List String → Request
  | [] => draft.finish
  | "--" :: rest => parsePlain draft rest
  | "--help" :: _ => .help
  | "--verbose" :: rest => orMisuse draft.withVerbose fun draft => parseFrom draft rest
  | "--config" :: path :: rest =>
    if isValue path then orMisuse (draft.withConfig path) fun draft => parseFrom draft rest
    else .misuse
  | argument :: rest =>
    if isValue argument then
      orMisuse (draft.withScript argument) fun draft => parseFrom draft rest
    else
      match attachedConfig? argument with
      | some path => orMisuse (draft.withConfig path) fun draft => parseFrom draft rest
      | none =>
        match cluster draft (argument.toList.drop 1) with
        | .done draft => parseFrom draft rest
        | .config draft =>
          match rest with
          | path :: rest =>
            if isValue path then
              orMisuse (draft.withConfig path) fun draft => parseFrom draft rest
            else .misuse
          | [] => .misuse
        | .help => .help
        | .misuse => .misuse

def parse (arguments : List String) : Request :=
  parseFrom {} arguments

def helpText : String :=
  String.join
    ["Replay drop menu interactions and print the resulting queries\n\n",
      "Usage: dropmenu-replay [OPTIONS] <SCRIPT>\n\n",
      "Arguments:\n",
      "  <SCRIPT>  Script file (JSON)\n\n",
      "Options:\n",
      "  -c, --config <DIR>  Directory holding dropmenu.toml\n",
      "  -v, --verbose       Verbose logging\n",
      "  -h, --help          Print help\n"]

/-- How the command ends: its exit code, what it prints, and the first line of its error. -/
structure Outcome where
  exitCode : Nat
  output : String := ""
  error : Option String := none
deriving DecidableEq, Repr

/-- The path of the configuration file that the arguments name, or the user's own. -/
def configPath (arguments : Arguments) (defaultDirectory : String) : String :=
  joinPath (arguments.config.getD defaultDirectory) Config.fileName

/-- Replays a script, given what was found under the configuration path and the script's. -/
def replay (arguments : Arguments) (report : LoadReport) (script : FileState) : Outcome :=
  match script.read with
  | .error _ => { exitCode := 1, error := some ("reading script " ++ arguments.script) }
  | .ok text =>
    match Replay.Script.parse text with
    | .error _ => { exitCode := 1, error := some ("parsing script " ++ arguments.script) }
    | .ok script =>
      match Replay.run script report.labelsOrStock with
      | .error error => { exitCode := 1, error := some error.message }
      | .ok report => { exitCode := 0, output := report.toJson.pretty ++ "\n" }

/-- Runs the command.  `find` tells what is under a path. -/
def execute {m : Type → Type} [Monad m] (find : String → m FileState) (defaultDirectory : String)
    (arguments : List String) : m Outcome :=
  match parse arguments with
  | .help => return { exitCode := 0, output := helpText }
  | .misuse => return { exitCode := 2 }
  | .replay arguments => do
    let path := configPath arguments defaultDirectory
    let report := Config.load path (← find path)
    return replay arguments report (← find arguments.script)

end CommandLine

end QueryMenu
