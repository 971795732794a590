import Roster.Statement.Parse

/-! Log records and those that reading a source leaves. -/
namespace Roster

inductive LogLevel where
  | debug | info | warning | error | critical
  deriving DecidableEq, Repr

namespace LogLevel

def all : List LogLevel := [.debug, .info, .warning, .error, .critical]

def name : LogLevel → Text
  | debug => "DEBUG".toList
  | info => "INFO".toList
  | warning => "WARNING".toList
  | error => "ERROR".toList
  | critical => "CRITICAL".toList

def ofName? (s : Text) : Option LogLevel := all.find? fun l => l.name == s

@[simp] theorem ofName?_name (l : LogLevel) : ofName? l.name = some l := by cases l <;> rfl

def rank : LogLevel → Nat
  | debug => 0
  | info => 1
  | warning => 2
  | error => 3
  | critical => 4

/-- Whether a record of level `l` is shown where `threshold` is set. -/
def isShown (threshold l : LogLevel) : Bool := threshold.rank ≤ l.rank

end LogLevel

structure LogRecord where
  source : Text
  level : LogLevel
  message : Text
  deriving DecidableEq, Repr

namespace LogRecord

def render (stamp : Text) (r : LogRecord) : Text :=
  " - ".toList.intercalate [stamp, r.source, r.level.name, r.message] ++ ['\n']

def tokenized (tokens characters : Nat) : LogRecord :=
  ⟨"eql.core.lexer".toList, .debug,
    "Tokenized ".toList ++ Text.ofNat tokens ++ " tokens from ".toList ++
      Text.ofNat characters ++ " characters".toList⟩

def parsing (s : Statement) : LogRecord :=
  ⟨"eql.core.parser_impl".toList, .debug,
    "Parsing ".toList ++ s.start.value.text ++ " statement at ".toList ++
      Text.ofInt s.start.lineNumber ++ ':' :: Text.ofInt s.start.column ++
      " (".toList ++ Text.ofNat s.body.length ++ " tokens)".toList⟩

def parsed (operations : Nat) : LogRecord :=
  ⟨"eql.core.parser".toList, .debug,
    "Parsed ".toList ++ Text.ofNat operations ++ " operations".toList⟩

def accepted (operations : Nat) : LogRecord :=
  ⟨"eql.cli.app".toList, .info,
    "Parsed ".toList ++ Text.ofNat operations ++ " operations".toList⟩

def refused (source : Text) : LogRecord :=
  ⟨"eql.cli.repl".toList, .debug, "Rejected input: ".toList ++ source.quoted⟩

/-- A record for every statement up to the first that fails. -/
def ofStatements : List Statement → List LogRecord
  | [] => []
  | s :: ss =>
    parsing s ::
      match s.operation with
      | .ok _ => ofStatements ss
      | .error _ => []

/-- The records that reading a source leaves. -/
def ofSource (source : Text) : List LogRecord :=
  match tokenize source with
  | .error _ => []
  | .ok tokens =>
    tokenized tokens.length source.length :: ofStatements (Statement.split tokens).1 ++
      match parse tokens with
      | .ok ops => [parsed ops.length]
      | .error _ => []

end LogRecord
end Roster
