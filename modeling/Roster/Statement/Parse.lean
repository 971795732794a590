import Roster.NameList
import Roster.Operation.Basic
import Roster.Statement.Basic
import Roster.Token.Tokenize

/-! From statements to operations. A statement is one or two lists and a terminator; its terminator
gives the modifier. -/
namespace Roster
open Vocabulary

/-- Why tokens give no operations. A parse error is the user's; the other two are faults of the
grammar itself: tokens left behind the lists, and an operation that breaks its constraints. -/
inductive Rejection where
  | parse (error : ParseError)
  | leftover (kind : OperationKind) (tokens : List Token)
  | invalid (operation : Operation)
  deriving DecidableEq, Repr

def leftoverMessage (kind : OperationKind) (ts : List Token) : Text :=
  Text.ofNat ts.length ++ " tokens left after parsing ".toList ++ kind.name ++
    " lists: [".toList ++ ", ".toList.intercalate (ts.map Token.summary) ++ [']']

def allowedTerminators (kind : OperationKind) : List TokenValue :=
  kind.allowedModifiers.map terminator

namespace Operation

def checked (op : Operation) : Except Rejection Operation :=
  if op.isValid then .ok op else .error (.invalid op)

/-- Applies what is left of a statement behind its lists, which should be its terminator. -/
def terminate (op : Operation) (start : Token) (left : List Token) : Except Rejection Operation :=
  match left with
  | [] =>
    .error <| .parse
      { fault := .unterminated, kind := op.kind, start
        unexpected := none
        expected := some (allowedTerminators op.kind)
        details := some "You didn't terminate your operation!".toList }
  | [t] =>
    match (modifierOf? t.value).bind op.withModifier? with
    | some op => op.checked
    | none =>
      .error <| .parse
        { fault := .invalidModifier, kind := op.kind, start
          unexpected := some t
          expected := some (allowedTerminators op.kind)
          details := some <|
            t.value.describe ++ " is not a valid modifier for the operation".toList }
  | _ => .error (.leftover op.kind left)

end Operation

namespace Statement

def kind (s : Statement) : OperationKind := s.keyword.kind

/-- Checks an operation and applies what is left of the statement to it. -/
def conclude (s : Statement) (op : Operation) (left : List Token) : Except Rejection Operation :=
  do (← op.checked).terminate s.start left

def readList (s : Statement) (name : Text) (terminators : List TokenValue) (ts : List Token) :
    Except Rejection (List Text) :=
  (NameList.read terminators ts).mapError fun f =>
    .parse (f.toParseError s.kind s.start terminators name)

/-- `List T` after `Create` or `Show`. -/
def departmentsOnly (s : Statement) (make : List Text → Modifier → Operation) :
    Except Rejection Operation := do
  let departments ← s.readList "department".toList terminators s.body
  s.conclude (make departments .plain) (NameList.rest terminators s.body)

/-- `List to List T` after `Add`. -/
def addition (s : Statement) : Except Rejection Operation := do
  let names ← s.readList "name".toList [toWord] s.body
  match NameList.rest [toWord] s.body with
  | [] =>
    .error <| .parse
      { fault := .malformedList, kind := s.kind, start := s.start
        unexpected := none
        expected := some [toWord]
        details := some <| "You must follow the names with ".toList ++ toWord.describe ++
          " and at least one department!".toList }
  | _ :: after =>
    let departments ← s.readList "department".toList terminators after
    s.conclude (.add names departments .plain) (NameList.rest terminators after)

/-- What ends the first list after `Remove`. -/
def removalTerminators : List TokenValue := fromWord :: terminators

/-- `List T` or `List from List T` after `Remove`. With `from`, the first list holds names. -/
def removal (s : Statement) : Except Rejection Operation := do
  let first ← s.readList "name or department".toList removalTerminators s.body
  match NameList.rest removalTerminators s.body with
  | [] => s.conclude (.remove [] first .plain) []
  | t :: after =>
    if t.value = fromWord then
      match NameList.read terminators after with
      | .ok second => s.conclude (.remove first second .plain) (NameList.rest terminators after)
      | .error (.empty _) =>
        .error <| .parse
          { fault := .missingDepartments, kind := s.kind, start := s.start
            unexpected := some t
            expected := some listElement
            details := some <| "You must specify at least one department after ".toList ++
              t.value.describe }
      | .error fault =>
        .error (.parse (fault.toParseError s.kind s.start terminators "department".toList))
    else s.conclude (.remove [] first .plain) (t :: after)

def operation (s : Statement) : Except Rejection Operation :=
  match s.keyword with
  | .create => s.departmentsOnly .create
  | .display => s.departmentsOnly .display
  | .add => s.addition
  | .remove => s.removal

end Statement

/-- The error of a token that begins no statement. -/
def strayToken (t : Token) : ParseError :=
  { fault := .unexpectedToken, kind := .unknown, start := t
    unexpected := some t
    expected := some keywords
    details := some "You must input an operation!".toList }

/-- The operations of all statements, in order; the first error wins. -/
def parse (ts : List Token) : Except Rejection (List Operation) := do
  let ops ← (Statement.split ts).1.mapM Statement.operation
  match (Statement.split ts).2 with
  | some t => .error (.parse (strayToken t))
  | none => return ops

/-- Why a source gives no operations. -/
inductive SourceError where
  | lex (error : LexError)
  | rejected (reason : Rejection)
  deriving DecidableEq, Repr

def parseSource (source : Text) : Except SourceError (List Operation) := do
  let tokens ← (tokenize source).mapError .lex
  (parse tokens).mapError .rejected

/-- The statements of operations, a line each. -/
def sourceOf (ops : List Operation) : Text := ['\n'].intercalate (ops.map Operation.statement)

end Roster
