import Roster.Folder
import Roster.Log
import Roster.Text.Uppercase
import Roster.Toml.Document

/-! Settings and the file that they are read from. All sections and keys are optional; the first
condition that a document breaks is reported. -/
namespace Roster

inductive OutputFormat where
  | text | json
  deriving DecidableEq, Repr

namespace OutputFormat

def all : List OutputFormat := [.text, .json]

def name : OutputFormat → Text
  | text => "text".toList
  | json => "json".toList

def ofName? (s : Text) : Option OutputFormat := all.find? fun f => f.name == s

@[simp] theorem ofName?_name (f : OutputFormat) : ofName? f.name = some f := by cases f <;> rfl

end OutputFormat

structure Settings where
  prompt : Text
  continuationPrompt : Text
  format : OutputFormat
  indexed : Bool
  level : LogLevel
  deriving DecidableEq, Repr

/-- A condition on the document that does not hold. -/
inductive SettingsFault where
  | notTable (name : Text)
  | wrongType (key expected found : Text)
  | unknownFormat (given : Text)
  | unknownLevel (given : Text)
  deriving DecidableEq, Repr

def expectedNames (names : List Text) : Text :=
  " (expected one of: ".toList ++ ", ".toList.intercalate names ++ [')']

def SettingsFault.message (path : Text) : SettingsFault → Text
  | notTable name => '[' :: name ++ "] in ".toList ++ path ++ " must be a table".toList
  | wrongType key expected found =>
    key ++ " in ".toList ++ path ++ " must be a ".toList ++ expected ++ ", got ".toList ++ found
  | unknownFormat given =>
    "Unknown output format ".toList ++ given.quoted ++ " in ".toList ++ path ++
      expectedNames (OutputFormat.all.map OutputFormat.name)
  | unknownLevel given =>
    "Unknown log level ".toList ++ given.quoted ++ " in ".toList ++ path ++
      expectedNames (LogLevel.all.map LogLevel.name)

namespace Settings

def defaults : Settings := ⟨"> ".toList, ".. ".toList, .text, true, .warning⟩

def tableAt (doc : Toml.Table) (name : Text) : Except SettingsFault Toml.Table :=
  match doc.lookup name with
  | none => .ok []
  | some (.table t) => .ok t
  | some _ => .error (.notTable name)

def dottedName (part name : Text) : Text := part ++ '.' :: name

def textAt (t : Toml.Table) (part name default : Text) : Except SettingsFault Text :=
  match t.lookup name with
  | none => .ok default
  | some (.string s) => .ok s
  | some v => .error (.wrongType (dottedName part name) "str".toList v.typeName)

def boolAt (t : Toml.Table) (part name : Text) (default : Bool) : Except SettingsFault Bool :=
  match t.lookup name with
  | none => .ok default
  | some (.boolean b) => .ok b
  | some v => .error (.wrongType (dottedName part name) "bool".toList v.typeName)

def formatOf (given : Text) : Except SettingsFault OutputFormat :=
  match OutputFormat.ofName? given with
  | some f => .ok f
  | none => .error (.unknownFormat given)

/-- Level names are read in upper case. -/
def levelOf (given : Text) : Except SettingsFault LogLevel :=
  match LogLevel.ofName? given.upper with
  | some l => .ok l
  | none => .error (.unknownLevel given.upper)

def replPart : Text := "repl".toList
def outputPart : Text := "output".toList
def loggingPart : Text := "logging".toList

def ofTable (doc : Toml.Table) : Except SettingsFault Settings := do
  let repl ← tableAt doc replPart
  let output ← tableAt doc outputPart
  let logging ← tableAt doc loggingPart
  let prompt ← textAt repl replPart "prompt".toList defaults.prompt
  let continuationPrompt ←
    textAt repl replPart "continuation_prompt".toList defaults.continuationPrompt
  let format ← formatOf (← textAt output outputPart "format".toList defaults.format.name)
  let indexed ← boolAt output outputPart "show_index".toList defaults.indexed
  let level ← levelOf (← textAt logging loggingPart "level".toList defaults.level.name)
  return ⟨prompt, continuationPrompt, format, indexed, level⟩

end Settings

inductive LoadError where
  | absent (path : Text)
  | document (path : Text) (fault : Toml.Fault)
  | invalid (path : Text) (fault : SettingsFault)
  | unreadable (path : Text) (fault : ReadFault)
  deriving DecidableEq, Repr

/-- The message for a document that cannot be read. A malformed one is named by its path alone: the
colon behind the path and the reader's own words for what is wrong there are left out. -/
def documentMessage (path : Text) : Toml.Fault → Text
  | .malformed => "Invalid TOML in ".toList ++ path
  | .longInteger digits =>
    "Exceeds the limit (".toList ++ Text.ofNat Toml.digitLimit ++
      " digits) for integer string conversion: value has ".toList ++ Text.ofNat digits ++
      " digits; use sys.set_int_max_str_digits() to increase the limit".toList
  | .tooDeep => "maximum recursion depth exceeded".toList

namespace LoadError

def message : LoadError → Text
  | absent path => "Config file not found: ".toList ++ path
  | document path fault => documentMessage path fault
  | invalid path fault => fault.message path
  | unreadable path fault => fault.message path

/-- Whether the settings are at fault, and not the means of reading them. -/
def isComplaint : LoadError → Bool
  | absent _ | document _ .malformed | invalid _ _ => true
  | document _ _ | unreadable _ _ => false

end LoadError

namespace Settings

def fileName : Text := "eql.toml".toList

/-- The settings in a file that is there. -/
def ofEntry (path : Text) (e : Entry) : Except LoadError Settings := do
  let s ← e.read.mapError (.unreadable path)
  let doc ← (Toml.read s).mapError (.document path)
  (ofTable doc).mapError (.invalid path)

/-- The settings of the named file, which must exist, or else of the settings file in the working
directory, or else the defaults; with the path of the file read. -/
def load (entry : Text → Entry) (directory : Text) (named : Option Text) :
    Except LoadError (Settings × Option Text) :=
  let from? (path : Text) (e : Entry) : Except LoadError (Option (Settings × Option Text)) :=
    match e with
    | .missing | .throughFile => .ok none
    | e => return some (← ofEntry path e, some path)
  match named with
  | some path => do
    match ← from? (Path.normal path) (entry path) with
    | some loaded => return loaded
    | none => .error (.absent (Path.normal path))
  | none => do
    match ← from? (directory ++ '/' :: fileName) (entry fileName) with
    | some loaded => return loaded
    | none => return (defaults, none)

end Settings
end Roster
