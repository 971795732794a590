import Roster.Operation.Record
import Roster.Settings
import Roster.Text.Display

/-! What a run writes: operations and diagnostics as a display shows them, messages as they are,
and log records. -/
namespace Roster

inductive Output where
  | out (s : Text)
  | err (s : Text)
  | log (r : LogRecord)
  /-- The notice of wrong usage, on the error stream. -/
  | usage
  deriving DecidableEq, Repr

def Output.isShown (threshold : LogLevel) : Output → Bool
  | log r => threshold.isShown r.level
  | _ => true

/-- A line, or several, as a display shows them. -/
def displayedLine (s : Text) : Text := s.displayed ++ ['\n']

def formatOperations (format : OutputFormat) (indexed : Bool) (ops : List Operation) : Text :=
  match format with
  | .json => (Operation.listToJson ops).indented
  | .text => ['\n'].intercalate (confirmationLines indexed ops)

/-- In text form no operations are no output. -/
def reportOperations (format : OutputFormat) (indexed : Bool) (ops : List Operation) :
    List Output :=
  if ops.isEmpty && format = .text then []
  else [.out (displayedLine (formatOperations format indexed ops))]

/-- Why a run was cut short without an answer. -/
inductive Crash where
  | unloaded (error : LoadError)
  | undecodable (path : Text)
  | inconsistent (reason : Rejection)
  deriving DecidableEq, Repr

def Crash.message : Crash → Text
  | unloaded e => e.message
  | undecodable path => ReadFault.undecodable.message path
  | inconsistent _ => "inconsistent grammar".toList

/-- The diagnostic of a source, unless the fault is the grammar's own. -/
def SourceError.diagnostic : SourceError → Except Crash Text
  | .lex e => .ok e.message
  | .rejected (.parse e) => .ok e.message
  | .rejected reason => .error (.inconsistent reason)

def reportError (e : SourceError) : Except Crash (List Output) :=
  return [.err (displayedLine (← e.diagnostic))]

end Roster
