import Roster.Diagnostic.Excerpt
import Roster.Operation.Kind

/-! Errors of the statement grammar. The message shows the statement's first token, the unexpected
token, what was expected, and a hint. -/
namespace Roster

inductive ParseFault where
  | unexpectedToken | emptyList | malformedList | unterminated | invalidModifier
  | missingDepartments
  deriving DecidableEq, Repr

namespace ParseFault

def all : List ParseFault :=
  [.unexpectedToken, .emptyList, .malformedList, .unterminated, .invalidModifier,
    .missingDepartments]

def name : ParseFault → Text
  | .unexpectedToken => "unexpected_token".toList
  | .emptyList => "empty_list".toList
  | .malformedList => "malformed_list".toList
  | .unterminated => "unterminated".toList
  | .invalidModifier => "invalid_modifier".toList
  | .missingDepartments => "missing_departments".toList

def ofName? (s : Text) : Option ParseFault := all.find? fun f => f.name == s

@[simp] theorem ofName?_name (f : ParseFault) : ofName? f.name = some f := by cases f <;> rfl

end ParseFault

/-- The kind is unknown where no statement has begun. -/
structure ParseError where
  fault : ParseFault
  kind : OperationKind
  start : Token
  unexpected : Option Token
  expected : Option (List TokenValue)
  details : Option Text
  deriving DecidableEq, Repr

namespace ParseError

/-- The token whose place the message names: the unexpected one if it is on the first line. -/
def anchor (e : ParseError) : Token :=
  match e.unexpected with
  | some t => if t.lineNumber = e.start.lineNumber then t else e.start
  | none => e.start

def heading (e : ParseError) : Text :=
  match e.kind with
  | .unknown => "Error".toList
  | k => "Error on ".toList ++ k.name ++ " operation".toList

/-- On the statement's first line the carets continue its caret line; otherwise the unexpected
token has an excerpt of its own. -/
def unexpectedPart (e : ParseError) : Text :=
  match e.unexpected with
  | none => []
  | some t =>
    let notice := "\nUnexpected ".toList ++ t.value.describe
    if t = e.start then []
    else if t.lineNumber = e.start.lineNumber then
      caretLine t.value.text
        (t.column - e.start.column - e.start.value.text.graphemeLength + 1) ++ notice
    else notice ++ " on ".toList ++ t.place ++ ':' :: t.excerpt

def expectedPart (e : ParseError) : Text :=
  match e.expected with
  | none | some [] => []
  | some values =>
    "\nExpected ".toList ++ Text.enumerateOr (values.map TokenValue.describe) ++
      if e.unexpected.isSome then " instead".toList else []

def detailsPart (e : ParseError) : Text :=
  match e.details with
  | none | some [] => []
  | some hint => '\n' :: hint

def message (e : ParseError) : Text :=
  e.heading ++ " on ".toList ++ e.anchor.place ++ ':' :: e.start.excerpt ++ e.unexpectedPart ++
    e.expectedPart ++ e.detailsPart

end ParseError
end Roster
