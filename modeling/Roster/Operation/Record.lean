import Roster.Json.Printer
import Roster.Json.Reader
import Roster.Operation.Basic

/-! Operations as JSON records: what they are written to, and the checks that reading one makes. A
check reports every bad field, in the order modifier, kind, names, departments. -/
namespace Roster

inductive PathStep where
  | field (name : Text)
  | index (i : Nat)
  deriving DecidableEq, Repr

inductive InvalidReason where
  | missing | notList | notText | tooShort
  | unknownModifier
  | forbiddenModifier (modifier : Modifier) (kind : OperationKind)
  | otherKind
  | frozen
  | noKind | unknownKind | notRecord
  | malformedText
  deriving DecidableEq, Repr

/-- A value that breaks a rule, and the path to it. -/
structure Invalid where
  reason : InvalidReason
  path : List PathStep
  deriving DecidableEq, Repr

namespace Invalid

def within (steps : List PathStep) (e : Invalid) : Invalid := { e with path := steps ++ e.path }

/-- A sentence for a modifier that a kind forbids. -/
def message? (e : Invalid) : Option Text :=
  match e.reason with
  | .forbiddenModifier m k =>
    some (m.name ++ " is not a valid modifier for ".toList ++ k.name ++ "Operation".toList)
  | _ => none

end Invalid

abbrev Checked (α : Type) := Except (List Invalid) α

def Checked.faults {α : Type} : Checked α → List Invalid
  | .ok _ => []
  | .error es => es

namespace Operation

def modifierField : Text := "modifier".toList
def kindField : Text := "kind".toList
def namesField : Text := "names".toList
def departmentsField : Text := "departments".toList

def make (kind : OperationKind) (m : Modifier) (names departments : List Text) : Operation :=
  match kind with
  | .create => create departments m
  | .add => add names departments m
  | .remove => remove names departments m
  | .display => display departments m
  | .unknown => unknown

def textList (texts : List Text) : Json := .array (texts.map .string)

/-- The fields of an operation in their written order. -/
def members (op : Operation) : List (Text × Json) :=
  [(modifierField, .string op.modifier.name), (kindField, .string op.kind.name)] ++
    (op.names?.map fun names => (namesField, textList names)).toList ++
    (op.departments?.map fun departments => (departmentsField, textList departments)).toList

def toJson (op : Operation) : Json := .object op.members

def checkModifier (kind : OperationKind) : Option Json → Checked Modifier
  | none => .ok .plain
  | some (.string s) =>
    match Modifier.ofName? s with
    | none => .error [⟨.unknownModifier, [.field modifierField]⟩]
    | some m =>
      if kind.allows m then .ok m
      else .error [⟨.forbiddenModifier m kind, [.field modifierField]⟩]
  | some _ => .error [⟨.unknownModifier, [.field modifierField]⟩]

def checkKind (kind : OperationKind) : Option Json → Checked Unit
  | none => .ok ()
  | some (.string s) =>
    if s = kind.name then .ok () else .error [⟨.otherKind, [.field kindField]⟩]
  | some _ => .error [⟨.otherKind, [.field kindField]⟩]

/-- Every item that is no text, counted from `i`. -/
def nonTexts (field : Text) (i : Nat) : List Json → List Invalid
  | [] => []
  | .string _ :: vs => nonTexts field (i + 1) vs
  | _ :: vs => ⟨.notText, [.field field, .index i]⟩ :: nonTexts field (i + 1) vs

def texts : List Json → List Text
  | [] => []
  | .string s :: vs => s :: texts vs
  | _ :: vs => texts vs

def checkTexts (field : Text) (least : Nat) : Json → Checked (List Text)
  | .array items =>
    match nonTexts field 0 items with
    | [] => if items.length < least then .error [⟨.tooShort, [.field field]⟩] else .ok (texts items)
    | es => .error es
  | _ => .error [⟨.notList, [.field field]⟩]

def checkNames (kind : OperationKind) (v : Option Json) : Checked (List Text) :=
  match kind, v with
  | .add, none => .error [⟨.missing, [.field namesField]⟩]
  | .add, some v => checkTexts namesField 1 v
  | .remove, some v => checkTexts namesField 0 v
  | _, _ => .ok []

def checkDepartments (kind : OperationKind) (v : Option Json) : Checked (List Text) :=
  match kind, v with
  | .unknown, _ => .ok []
  | _, none => .error [⟨.missing, [.field departmentsField]⟩]
  | _, some v => checkTexts departmentsField 1 v

/-- The operation of a kind with the given fields; other fields are ignored. -/
def ofMembers (kind : OperationKind) (fields : List (Text × Json)) : Checked Operation :=
  let m := checkModifier kind (Json.member? modifierField fields)
  let k := checkKind kind (Json.member? kindField fields)
  let ns := checkNames kind (Json.member? namesField fields)
  let ds := checkDepartments kind (Json.member? departmentsField fields)
  match m, k, ns, ds with
  | .ok m, .ok _, .ok ns, .ok ds => .ok (make kind m ns ds)
  | _, _, _, _ => .error (m.faults ++ k.faults ++ ns.faults ++ ds.faults)

def ofJson (v : Json) : Checked Operation :=
  match v with
  | .object fields =>
    match Json.member? kindField fields with
    | none => .error [⟨.noKind, []⟩]
    | some (.string s) =>
      match OperationKind.ofName? s with
      | none => .error [⟨.unknownKind, []⟩]
      | some kind =>
        (ofMembers kind fields).mapError fun es => es.map (Invalid.within [.field kind.name])
    | some _ => .error [⟨.unknownKind, []⟩]
  | _ => .error [⟨.notRecord, []⟩]

/-- The operation with some fields given anew, checked as a whole. -/
def rebuild (op : Operation) (changes : List (Text × Json)) : Checked Operation :=
  ofMembers op.kind (op.members ++ changes)

/-- Gives the names anew, if the operation takes such a list; its items are checked. -/
def withNameItems? (op : Operation) (items : List Json) : Option (Checked Operation) :=
  if op.takesNames items.isEmpty then some (op.rebuild [(namesField, .array items)]) else none

def withDepartmentItems? (op : Operation) (items : List Json) : Option (Checked Operation) :=
  if op.takesDepartments items.isEmpty then
    some (op.rebuild [(departmentsField, .array items)])
  else none

/-- What comes of giving an attribute of an operation a value in place. -/
inductive Assignment where
  /-- The attribute is not part of the operation, which stays as it is. -/
  | ignored
  /-- The attribute belongs to all operations of the kind. -/
  | shared
  | refused (e : Invalid)
  deriving DecidableEq, Repr

def sharedAttribute : Text := "allowed_modifiers".toList

/-- An operation never changes in place. Attributes in its own care begin with an underscore. -/
def assign (name : Text) : Assignment :=
  if name = sharedAttribute then .shared
  else if name.head? = some '_' then .ignored
  else .refused ⟨.frozen, [.field name]⟩

def typeName (op : Operation) : Text := op.kind.name ++ "Operation".toList

def sharedMessage (op : Operation) : Text :=
  sharedAttribute.quoted ++ " is a ClassVar of `".toList ++ op.typeName ++
    "` and cannot be set on an instance. If you want to set a value on the class, use `".toList ++
    op.typeName ++ '.' :: sharedAttribute ++ " = value`.".toList

/-- Every item read on its own, counted from `i`; one bad item spoils the list. -/
def listFrom (i : Nat) : List Json → Checked (List Operation)
  | [] => .ok []
  | v :: vs =>
    let first : Checked Operation := (ofJson v).mapError fun es => es.map (Invalid.within [.index i])
    let others := listFrom (i + 1) vs
    match first, others with
    | .ok op, .ok ops => .ok (op :: ops)
    | _, _ => .error (first.faults ++ others.faults)

def listOfJson : Json → Checked (List Operation)
  | .array items => listFrom 0 items
  | _ => .error [⟨.notList, []⟩]

def listOfText (s : Text) : Checked (List Operation) :=
  match Json.read? s with
  | none => .error [⟨.malformedText, []⟩]
  | some v => listOfJson v

def listToJson (ops : List Operation) : Json := .array (ops.map toJson)

end Operation
end Roster
