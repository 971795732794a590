import Roster.CommandLine.Arguments
import Roster.Session

/-! A run of the program: what a list of arguments writes, and its exit code. Exit code 1 stands for
a source with an error, exit code 2 for wrong usage, settings or files. -/
namespace Roster.CommandLine

/-- What a run can see besides standard input: the working directory, files by their path, and facts
for the version text. -/
structure Surroundings where
  directory : Text
  entry : Text → Entry
  facts : List (Text × Text)

structure Outcome where
  outputs : List Output
  code : Nat
  crash : Option Crash

namespace Outcome

def misused : Outcome := ⟨[.usage], 2, none⟩

def complaint (message : Text) : Outcome :=
  ⟨[.err (Text.dropStyles ("Error: ".toList ++ message ++ ['\n']))], 2, none⟩

def crashed (outputs : List Output) (c : Crash) : Outcome := ⟨outputs, 1, some c⟩

/-- Leaves out the log records below a level. -/
def atLevel (threshold : LogLevel) (o : Outcome) : Outcome :=
  { o with outputs := o.outputs.filter (Output.isShown threshold) }

end Outcome

/-- How a run goes on once its arguments are read: it is over, or it needs standard input as a
whole, or line by line. -/
inductive Start where
  | finished (o : Outcome)
  | reading (go : Text → Outcome)
  | session (settings : Settings) (level : LogLevel)

def version : Text := "0.1.0".toList

def versionText (facts : List (Text × Text)) : Text :=
  "eql version ".toList ++ version ++ "\n\nEnvironment:\n".toList ++
    facts.flatMap fun (name, value) => "  ".toList ++ name ++ ": ".toList ++ value ++ ['\n']

def versionOption : OptionSpec := ⟨"--version".toList, some 'v', false⟩
def configOption : OptionSpec := ⟨"--config".toList, some 'c', true⟩
def logLevelOption : OptionSpec := ⟨"--log-level".toList, none, true⟩
def fileOption : OptionSpec := ⟨"--file".toList, some 'f', true⟩
def formatOption : OptionSpec := ⟨"--format".toList, none, true⟩

def rootOptions : List OptionSpec := [versionOption, configOption, logLevelOption]

inductive Command where
  | parse | check | repl
  deriving DecidableEq, Repr

namespace Command

def all : List Command := [.parse, .check, .repl]

def name : Command → Text
  | parse => "parse".toList
  | check => "check".toList
  | repl => "repl".toList

def ofName? (s : Text) : Option Command := all.find? fun c => c.name == s

def options : Command → List OptionSpec
  | parse => [fileOption, formatOption]
  | check => [fileOption]
  | repl => []

/-- How many arguments a command takes besides its options. -/
def maxArguments : Command → Nat
  | parse | check => 1
  | repl => 0

end Command

/-- The source that a command is given, if it is not standard input. -/
def givenSource (env : Surroundings) (p : Parsed) : Except Outcome (Option Text) :=
  match p.positional.head?, p.value? fileOption.long with
  | some _, some _ => .error (.complaint "pass either TEXT or --file, not both".toList)
  | some s, none => .ok (some s)
  | none, none => .ok none
  | none, some path =>
    match (env.entry path).read with
    | .ok s => .ok (some s)
    | .error .undecodable =>
      .error (.crashed [] (.undecodable (Path.normal path)))
    | .error fault =>
      .error <| .complaint <| "cannot read ".toList ++ Path.normal path ++ ": ".toList ++
        fault.message (Path.normal path)

/-- Parses a source and goes on with its operations, or ends with its diagnostic. -/
def withOperations (go : List Operation → List Output) (s : Text) : Outcome :=
  let read := (LogRecord.ofSource s).map Output.log
  match parseSource s with
  | .ok ops => ⟨read ++ go ops, 0, none⟩
  | .error e =>
    match reportError e with
    | .ok outputs => ⟨read ++ outputs, 1, none⟩
    | .error c => .crashed read c

def formatFor (settings : Settings) (p : Parsed) : Except Outcome OutputFormat :=
  match p.value? formatOption.long with
  | none => .ok settings.format
  | some given =>
    match OutputFormat.ofName? given with
    | some f => .ok f
    | none =>
      .error <| .complaint <| "unknown format ".toList ++ given.quoted ++
        " (expected text or json)".toList

/-- What `parse` writes for the operations of its source. -/
def parseOutput (format : OutputFormat) (indexed : Bool) (ops : List Operation) : List Output :=
  .log (.accepted ops.length) :: reportOperations format indexed ops

/-- What `check` writes for the operations of its source. -/
def checkOutput (ops : List Operation) : List Output :=
  [.out (displayedLine ("OK (".toList ++ Text.ofNat ops.length ++ " operations)".toList))]

def onSource (go : Text → Outcome) : Option Text → Start
  | some s => .finished (go s)
  | none => .reading fun input => go (Text.unifyLineEnds input)

def Command.start (env : Surroundings) (settings : Settings) (level : LogLevel) (p : Parsed) :
    Command → Except Outcome Start
  | .parse => do
    let format ← formatFor settings p
    let s ← givenSource env p
    return onSource (fun s => (withOperations (parseOutput format settings.indexed) s).atLevel level) s
  | .check => do
    let s ← givenSource env p
    return onSource (fun s => (withOperations checkOutput s).atLevel level) s
  | .repl => return .session settings level

def settingsFor (env : Surroundings) (root : Parsed) : Except Outcome Settings :=
  match Settings.load env.entry env.directory (root.value? configOption.long) with
  | .ok (settings, _) => .ok settings
  | .error e =>
    .error (if e.isComplaint then .complaint e.message else .crashed [] (.unloaded e))

/-- The level in force: the one given, unless it is empty, or else that of the settings. -/
def levelFor (settings : Settings) (root : Parsed) : Except Outcome LogLevel :=
  match root.value? logLevelOption.long with
  | none | some [] => .ok settings.level
  | some given =>
    match LogLevel.ofName? given.upper with
    | some l => .ok l
    | none =>
      .error <| .complaint <| "unknown log level ".toList ++ given.quoted ++
        expectedNames (LogLevel.all.map LogLevel.name)

/-- Whether the path that an option gives, if any, is one: no path holds the null character. -/
def hasUsablePath (o : OptionSpec) (p : Parsed) : Bool :=
  (p.value? o.long).all fun path => !path.contains '\x00'

def commandArguments (c : Command) (args : List Text) : Except Outcome Parsed :=
  match parseArguments c.options false args with
  | none => .error .misused
  | some p =>
    if hasUsablePath fileOption p && p.positional.length ≤ c.maxArguments then .ok p
    else .error .misused

/-- Settings and level come first, then the command's own arguments. -/
def startCommand (env : Surroundings) (root : Parsed) (c : Command) (args : List Text) :
    Except Outcome Start := do
  let settings ← settingsFor env root
  let level ← levelFor settings root
  let p ← commandArguments c args
  c.start env settings level p

def showVersion (env : Surroundings) : Outcome := ⟨[.out (versionText env.facts)], 0, none⟩

/-- Arguments that name no command are looked at once more for the version option. -/
def unknownCommand (env : Surroundings) (args : List Text) : Outcome :=
  match parseArguments rootOptions true args with
  | some root => if root.has versionOption.long then showVersion env else .misused
  | none => .misused

/-- The command that arguments name, once the options in front of it are read. -/
def startNamed (env : Surroundings) (root : Parsed) : Except Outcome Start :=
  if hasUsablePath configOption root then
    match root.positional with
    | [] => .error .misused
    | name :: rest =>
      match Command.ofName? name with
      | none => .error (unknownCommand env (name :: rest))
      | some c => startCommand env root c rest
  else .error .misused

def start (env : Surroundings) (args : List Text) : Start :=
  match parseArguments rootOptions true args with
  | none => .finished .misused
  | some root =>
    if root.has versionOption.long then .finished (showVersion env)
    else
      match startNamed env root with
      | .ok next => next
      | .error o => .finished o

/-- A session over the lines of standard input. -/
def runSession (settings : Settings) (input : Text) : Outcome :=
  match Session.transcript settings [] (Session.inputLines (Text.unifyLineEnds input)) with
  | (outputs, none) => ⟨outputs, 0, none⟩
  | (outputs, some c) => .crashed outputs c

/-- A whole run, given all of standard input. -/
def run (env : Surroundings) (input : Text) (args : List Text) : Outcome :=
  match start env args with
  | .finished o => o
  | .reading go => go input
  | .session settings level => (runSession settings input).atLevel level

/-- Paths that a run may ask for. -/
def pathsOf (args : List Text) : List Text :=
  Settings.fileName ::
    match parseArguments rootOptions true args with
    | none => []
    | some root =>
      (root.value? configOption.long).toList ++
        match root.positional with
        | [] => []
        | name :: rest =>
          match (Command.ofName? name).bind fun c => parseArguments c.options false rest with
          | none => []
          | some p => (p.value? fileOption.long).toList

end Roster.CommandLine
