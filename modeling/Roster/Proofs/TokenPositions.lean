import Roster.Proofs.ParseOutcome

/-! Parsing by position. Tokens are looked up at positions that are counted while lists and
statements go by, and a look-up can find nothing. It never does: reading by position gives what
reading the tokens gives. -/
namespace Roster
open Vocabulary NameList

/-- Why reading by position gives nothing: a position at which there is nothing, or a reason that
reading the tokens has too. -/
inductive Misread (ε : Type) where
  | outOfRange (position : Nat)
  | failed (reason : ε)
  deriving DecidableEq, Repr

def Misread.map {ε ε' : Type} (f : ε → ε') : Misread ε → Misread ε'
  | outOfRange i => .outOfRange i
  | failed e => .failed (f e)

namespace ByPosition

variable {ε α β : Type}

def lookUp (xs : List α) (i : Nat) : Except (Misread ε) α :=
  match xs[i]? with
  | some x => .ok x
  | none => .error (.outOfRange i)

/-- A part of the reading that looks nothing up. -/
def direct (x : Except ε α) : Except (Misread ε) α := x.mapError .failed

/-- The parts of an element with those of one more token. -/
def addPart (parts : List Text) (t : Token) : Except (Misread ListFault) (List Text) :=
  if t.isBlank then
    if parts.isEmpty then .ok parts
    else do
      let last ← lookUp parts (parts.length - 1)
      .ok (if last = [' '] then parts else parts ++ [[' ']])
  else .ok (parts ++ [t.value.text])

def joinElement (ts : List Token) : Except (Misread ListFault) Text := do
  let parts ← ts.foldlM addPart []
  .ok (Text.trimEnd (· == ' ') parts.flatten)

/-- A step joins the tokens of an element where a separator ends it. -/
def step (p : Progress) (t : Token) : Except (Misread ListFault) Progress :=
  if !t.isBlank && separators.contains t.value && !p.pending.isEmpty then do
    let element ← joinElement p.pending
    .ok ⟨p.elements ++ [element], [], some t⟩
  else direct (p.step t)

/-- What has been read of a list that goes on at position `i`, and the position at which it ends. -/
def scan (ends : List TokenValue) (ts : List Token) (i : Nat) (p : Progress) :
    Except (Misread ListFault) (Progress × Nat) :=
  if i < ts.length then do
    let t ← lookUp ts i
    if ends.contains t.value then .ok (p, i)
    else
      let p ← step p t
      scan ends ts (i + 1) p
  else .ok (p, i)
termination_by ts.length - i

/-- The token that a list without elements is blamed on. -/
def endToken (ts : List Token) (i : Nat) : Except (Misread ListFault) (Option Token) :=
  if i < ts.length then do
    let t ← lookUp ts i
    .ok (some t)
  else if ts.isEmpty then .ok none
  else do
    let t ← lookUp ts (ts.length - 1)
    .ok (some t)

def finish (ts : List Token) (i : Nat) (p : Progress) : Except (Misread ListFault) (List Text) :=
  if !p.pending.isEmpty then do
    let element ← joinElement p.pending
    .ok (p.elements ++ [element])
  else
    match p.separator with
    | some t => .error (.failed (.malformed t))
    | none =>
      if p.elements.isEmpty then do
        let next ← endToken ts i
        .error (.failed (.empty next))
      else .ok p.elements

/-- The elements of the list at the front of `ts`, and the position of what ends it. -/
def read (ends : List TokenValue) (ts : List Token) :
    Except (Misread ListFault) (List Text × Nat) := do
  let (p, i) ← scan ends ts 0 .start
  let texts ← finish ts i p
  .ok (texts, i)

def readList (s : Statement) (name : Text) (ends : List TokenValue) (ts : List Token) :
    Except (Misread Rejection) (List Text × Nat) :=
  (read ends ts).mapError (Misread.map fun f => .parse (f.toParseError s.kind s.start ends name))

def terminate (op : Operation) (start : Token) (left : List Token) :
    Except (Misread Rejection) Operation :=
  if left.isEmpty || 1 < left.length then direct (op.terminate start left)
  else do
    let t ← lookUp left 0
    direct (op.terminate start [t])

def conclude (s : Statement) (op : Operation) (left : List Token) :
    Except (Misread Rejection) Operation := do
  let op ← direct op.checked
  terminate op s.start left

def departmentsOnly (s : Statement) (make : List Text → Modifier → Operation) :
    Except (Misread Rejection) Operation := do
  let (departments, i) ← readList s "department".toList terminators s.body
  conclude s (make departments .plain) (s.body.drop i)

/-- The error of a statement whose names nothing follows. -/
def missingTo (s : Statement) : ParseError :=
  { fault := .malformedList, kind := s.kind, start := s.start
    unexpected := none
    expected := some [toWord]
    details := some <| "You must follow the names with ".toList ++ toWord.describe ++
      " and at least one department!".toList }

def addition (s : Statement) : Except (Misread Rejection) Operation := do
  let (names, i) ← readList s "name".toList [toWord] s.body
  if s.body.length ≤ i then .error (.failed (.parse (missingTo s)))
  else
    let after := s.body.drop (i + 1)
    let (departments, j) ← readList s "department".toList terminators after
    conclude s (.add names departments .plain) (after.drop j)

/-- The error of a statement whose `from` no list follows. -/
def missingDepartments (s : Statement) (t : Token) : ParseError :=
  { fault := .missingDepartments, kind := s.kind, start := s.start
    unexpected := some t
    expected := some listElement
    details := some <| "You must specify at least one department after ".toList ++
      t.value.describe }

/-- Whether the token at position `i`, if there is one, is `from`. -/
def isFrom (ts : List Token) (i : Nat) : Except (Misread Rejection) Bool :=
  if i < ts.length then do
    let t ← lookUp ts i
    .ok (t.value = fromWord)
  else .ok false

/-- The list behind `from`, and where it ends; a list without elements ends where it begins. -/
def readSecond (s : Statement) (ts : List Token) : Except (Misread Rejection) (List Text × Nat) :=
  match read terminators ts with
  | .error (.failed (.empty _)) => .ok ([], 0)
  | second => second.mapError
      (Misread.map fun f => .parse (f.toParseError s.kind s.start terminators "department".toList))

def removal (s : Statement) : Except (Misread Rejection) Operation := do
  let (first, i) ← readList s "name or department".toList Statement.removalTerminators s.body
  let hasFrom ← isFrom s.body i
  if hasFrom then
    let after := s.body.drop (i + 1)
    let (second, j) ← readSecond s after
    if second.isEmpty then
      let t ← lookUp s.body i
      .error (.failed (.parse (missingDepartments s t)))
    else conclude s (.remove first second .plain) (after.drop j)
  else conclude s (.remove [] first .plain) (s.body.drop i)

def operation (s : Statement) : Except (Misread Rejection) Operation :=
  match s.keyword with
  | .create => departmentsOnly s .create
  | .display => departmentsOnly s .display
  | .add => addition s
  | .remove => removal s

/-- The operations of the statements from position `i` on. -/
def parseFrom (ts : List Token) (i : Nat) : Except (Misread Rejection) (List Operation) :=
  if i < ts.length then do
    let t ← lookUp ts i
    if t.isBlank then parseFrom ts (i + 1)
    else
      match Keyword.ofValue? t.value with
      | none => .error (.failed (.parse (strayToken t)))
      | some k =>
        let body := (cutStatement (ts.drop (i + 1))).1
        let op ← operation ⟨k, t, body⟩
        let ops ← parseFrom ts (i + 1 + body.length)
        .ok (op :: ops)
  else .ok []
termination_by ts.length - i

def parse (ts : List Token) : Except (Misread Rejection) (List Operation) := parseFrom ts 0

@[simp] theorem direct_error (e : ε) : direct (.error e : Except ε α) = .error (.failed e) := rfl

section Statements

variable {s : Statement}

end Statements

end ByPosition

end Roster
