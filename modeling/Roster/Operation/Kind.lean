import Roster.Text.Basic

/-! Kinds of operation and the modifiers that each kind allows. -/
namespace Roster

/-- What a statement asks for beyond its kind. -/
inductive Modifier where
  | plain | overwrite | failSilently
  deriving DecidableEq, Repr

namespace Modifier

def all : List Modifier := [.plain, .overwrite, .failSilently]

def name : Modifier → Text
  | .plain => "none".toList
  | .overwrite => "overwrite".toList
  | .failSilently => "fail_silently".toList

def ofName? (s : Text) : Option Modifier := all.find? fun m => m.name == s

@[simp] theorem ofName?_name (m : Modifier) : ofName? m.name = some m := by cases m <;> rfl

def description : Modifier → Text
  | .plain => []
  | .overwrite => "overwrite if existing".toList
  | .failSilently => "fail silently".toList

/-- The mark that ends a statement with this modifier. -/
def mark : Modifier → Char
  | .plain => '.'
  | .overwrite => '!'
  | .failSilently => '?'

end Modifier

inductive OperationKind where
  | unknown | add | create | remove | display
  deriving DecidableEq, Repr

namespace OperationKind

def all : List OperationKind := [.unknown, .add, .create, .remove, .display]

def name : OperationKind → Text
  | .unknown => "Unknown".toList
  | .add => "Add".toList
  | .create => "Create".toList
  | .remove => "Remove".toList
  | .display => "Show".toList

def ofName? (s : Text) : Option OperationKind := all.find? fun k => k.name == s

@[simp] theorem ofName?_name (k : OperationKind) : ofName? k.name = some k := by cases k <;> rfl

def allows : OperationKind → Modifier → Bool
  | _, .plain => true
  | .add, _ | .create, _ => true
  | .remove, .failSilently | .display, .failSilently => true
  | _, _ => false

def allowedModifiers (k : OperationKind) : List Modifier := Modifier.all.filter k.allows

end OperationKind
end Roster
