import Roster.Text.Basic

/-! TOML values. Numbers, dates and times keep their literal. -/
namespace Roster.Toml

inductive Value where
  | string (s : Text)
  | integer (literal : Text)
  | float (literal : Text)
  | boolean (b : Bool)
  | datetime (literal : Text)
  | date (literal : Text)
  | time (literal : Text)
  | array (items : List Value)
  | table (entries : List (Text × Value))
  deriving Repr

abbrev Table := List (Text × Value)

/-- The name of a value's type in messages. -/
def Value.typeName : Value → Text
  | string _ => "str".toList
  | integer _ => "int".toList
  | float _ => "float".toList
  | boolean _ => "bool".toList
  | datetime _ => "datetime".toList
  | date _ => "date".toList
  | time _ => "time".toList
  | array _ => "list".toList
  | table _ => "dict".toList

end Roster.Toml
