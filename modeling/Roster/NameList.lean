import Roster.Diagnostic.ParseError
import Roster.Vocabulary

/-! Lists of names or departments: elements of one or more words, separated by a comma, by `and`,
or by a comma with `and` behind it. A list ends in front of the first of its terminators. -/
namespace Roster
open Vocabulary

inductive ListFault where
  | empty (unexpected : Option Token)
  | malformed (unexpected : Token)
  deriving DecidableEq, Repr

namespace ListFault

def fault : ListFault → ParseFault
  | empty _ => .emptyList
  | malformed _ => .malformedList

def unexpected? : ListFault → Option Token
  | empty t => t
  | malformed t => some t

def message (f : ListFault) : Text :=
  f.fault.name ++ ": ".toList ++
    match f.unexpected? with
    | none => "None".toList
    | some t => t.summary

end ListFault

namespace NameList

/-- The parts of an element behind the part `last`; a run of whitespace becomes one space. -/
def elementParts (last : Option Text) : List Token → List Text
  | [] => []
  | t :: ts =>
    if t.isBlank then
      if last = none ∨ last = some [' '] then elementParts last ts
      else [' '] :: elementParts (some [' ']) ts
    else t.value.text :: elementParts (some t.value.text) ts

def joinElement (ts : List Token) : Text :=
  Text.trimEnd (· == ' ') (elementParts none ts).flatten

/-- What has been read of a list: its finished elements, the tokens of the element being read, and
the separator that no element has followed yet. -/
structure Progress where
  elements : List Text
  pending : List Token
  separator : Option Token
  deriving DecidableEq, Repr

namespace Progress

def start : Progress := ⟨[], [], none⟩

/-- The fault of a token that cannot stand here. -/
def blame (p : Progress) (t : Token) : ListFault :=
  if p.elements.isEmpty && p.pending.isEmpty then .empty (some t) else .malformed t

def afterComma (p : Progress) : Bool :=
  match p.separator with
  | some t => t.value = comma
  | none => false

def step (p : Progress) (t : Token) : Except ListFault Progress :=
  if t.isBlank then
    .ok (if p.pending.isEmpty then p else { p with pending := p.pending ++ [t] })
  else if t.value ∈ separators then
    if !p.pending.isEmpty then .ok ⟨p.elements ++ [joinElement p.pending], [], some t⟩
    else if t.value = andWord ∧ p.afterComma then .ok { p with separator := some t }
    else .error (p.blame t)
  else if t.value.kind = .word then
    if t.value ∈ reserved then .error (.malformed t)
    else .ok { p with pending := p.pending ++ [t], separator := none }
  else .error (p.blame t)

/-- The elements, once `next` is all that follows. -/
def finish (p : Progress) (next : Option Token) : Except ListFault (List Text) :=
  if !p.pending.isEmpty then .ok (p.elements ++ [joinElement p.pending])
  else
    match p.separator with
    | some t => .error (.malformed t)
    | none => if p.elements.isEmpty then .error (.empty next) else .ok p.elements

end Progress

/-- Tokens in front of the first terminator. -/
def body (terminators : List TokenValue) (ts : List Token) : List Token :=
  ts.takeWhile fun t => !terminators.contains t.value

/-- Tokens from the first terminator on. -/
def rest (terminators : List TokenValue) (ts : List Token) : List Token :=
  ts.dropWhile fun t => !terminators.contains t.value

/-- The elements of the list at the front of `ts`; it takes up `body terminators ts`. -/
def read (terminators : List TokenValue) (ts : List Token) : Except ListFault (List Text) := do
  let progress ← (body terminators ts).foldlM Progress.step Progress.start
  progress.finish ((rest terminators ts).head?.or ts.getLast?)

end NameList

/-- What a token would have been for, had a list stood in front of it. -/
def tokenRole (terminators : List TokenValue) (v : TokenValue) : Text :=
  if v ∈ terminators then "list terminator".toList
  else if v ∈ Vocabulary.terminators then "operation terminator".toList
  else "list element separator".toList

/-- The error of a statement that begins with `start`, when its list of `name`s has a fault. -/
def ListFault.toParseError (kind : OperationKind) (start : Token) (terminators : List TokenValue)
    (name : Text) : ListFault → ParseError
  | .empty unexpected =>
    { fault := .emptyList, kind, start, unexpected
      expected := some listElement
      details := some <| "You must specify at least one ".toList ++ name ++
        match unexpected with
        | none => []
        | some t =>
          " before ".toList ++ tokenRole terminators t.value ++ ' ' :: t.value.describe }
  | .malformed t =>
    { fault := .malformedList, kind, start
      unexpected := some t
      expected := some (listElement ++ terminators)
      details := some <|
        if t.value ∈ reserved ∧ t.value ≠ andWord then
          "Can't use ".toList ++ t.value.describe ++ " in lists, it's reserved!".toList
        else "The ".toList ++ name ++ " list you entered is invalid!".toList }

end Roster
