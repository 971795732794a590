import Roster.Operation.Kind

/-! Operations on departments and their members, the English they render to, and their updates. -/
namespace Roster

inductive Operation where
  | create (departments : List Text) (modifier : Modifier)
  | add (names departments : List Text) (modifier : Modifier)
  | remove (names departments : List Text) (modifier : Modifier)
  | display (departments : List Text) (modifier : Modifier)
  | unknown
  deriving DecidableEq, Repr

namespace Operation

def kind : Operation → OperationKind
  | create .. => .create
  | add .. => .add
  | remove .. => .remove
  | display .. => .display
  | unknown => .unknown

def modifier : Operation → Modifier
  | create _ m | add _ _ m | remove _ _ m | display _ m => m
  | unknown => .plain

def names? : Operation → Option (List Text)
  | add names _ _ | remove names _ _ => some names
  | _ => none

def departments? : Operation → Option (List Text)
  | create departments _ | add _ departments _ | remove _ departments _
  | display departments _ => some departments
  | unknown => none

/-- At least one department, at least one name to add, and a modifier that the kind allows. -/
def isValid : Operation → Bool
  | create departments m => !departments.isEmpty && OperationKind.create.allows m
  | add names departments m =>
    !names.isEmpty && !departments.isEmpty && OperationKind.add.allows m
  | remove _ departments m => !departments.isEmpty && OperationKind.remove.allows m
  | display departments m => !departments.isEmpty && OperationKind.display.allows m
  | unknown => true

/-- The sentence without its ending. -/
def phrase : Operation → Text
  | create departments _ => "Create ".toList ++ Text.enumerateAnd departments
  | add names departments _ =>
    "Add ".toList ++ Text.enumerateAnd names ++ " to ".toList ++ Text.enumerateAnd departments
  | remove [] departments _ => "Remove ".toList ++ Text.enumerateAnd departments
  | remove names departments _ =>
    "Remove ".toList ++ Text.enumerateAnd names ++ " from ".toList ++
      Text.enumerateAnd departments
  | display departments _ => "Show ".toList ++ Text.enumerateAnd departments
  | unknown => "Unknown".toList

/-- What is shown to confirm an operation. -/
def confirmation (op : Operation) : Text :=
  match op.modifier with
  | .plain => op.phrase
  | m => op.phrase ++ " (".toList ++ m.description ++ [')']

/-- The sentence as it is written in a source. -/
def statement : Operation → Text
  | unknown => unknown.phrase
  | op => op.phrase ++ [op.modifier.mark]

def setModifier (m : Modifier) : Operation → Operation
  | create departments _ => create departments m
  | add names departments _ => add names departments m
  | remove names departments _ => remove names departments m
  | display departments _ => display departments m
  | unknown => unknown

def setNames (names : List Text) : Operation → Operation
  | add _ departments m => add names departments m
  | remove _ departments m => remove names departments m
  | op => op

def setDepartments (departments : List Text) : Operation → Operation
  | create _ m => create departments m
  | add names _ m => add names departments m
  | remove names _ m => remove names departments m
  | display _ m => display departments m
  | unknown => unknown

/-- Whether the kind has a modifier that can become `m`. -/
def takesModifier (op : Operation) (m : Modifier) : Bool :=
  op.kind != .unknown && op.kind.allows m

/-- Whether the names can become a list, given whether that list is empty. -/
def takesNames (op : Operation) (empty : Bool) : Bool :=
  match op.kind with
  | .add => !empty
  | .remove => true
  | _ => false

def takesDepartments (op : Operation) (empty : Bool) : Bool := op.kind != .unknown && !empty

def withModifier? (op : Operation) (m : Modifier) : Option Operation :=
  if op.takesModifier m then some (op.setModifier m) else none

def withNames? (op : Operation) (names : List Text) : Option Operation :=
  if op.takesNames names.isEmpty then some (op.setNames names) else none

def withDepartments? (op : Operation) (departments : List Text) : Option Operation :=
  if op.takesDepartments departments.isEmpty then some (op.setDepartments departments) else none

end Operation

/-- The confirmations of a list of operations, a line each, with or without their index. -/
def confirmationLines (indexed : Bool) (ops : List Operation) : List Text :=
  if indexed then
    ops.zipIdx.map fun (op, i) => Text.ofNat i ++ ": ".toList ++ op.confirmation
  else ops.map Operation.confirmation

end Roster
