import Roster.Text.Basic

/-! JSON values and the lexemes that spell them. Of a number only its literal is kept. -/
namespace Roster

inductive Json where
  | null
  | bool (b : Bool)
  | number (literal : Text)
  | string (s : Text)
  | array (items : List Json)
  | object (members : List (Text × Json))
  deriving Inhabited, Repr

namespace Json

/-- The value of a member; of several with one name the last counts. -/
def member? (name : Text) (members : List (Text × Json)) : Option Json :=
  members.reverse.lookup name

inductive Lexeme where
  | openArray | closeArray | openObject | closeObject | comma | colon
  | null
  | bool (b : Bool)
  | number (literal : Text)
  | string (s : Text)
  deriving DecidableEq, Repr

mutual

def lexemes : Json → List Lexeme
  | null => [.null]
  | bool b => [.bool b]
  | number literal => [.number literal]
  | string s => [.string s]
  | array items => .openArray :: itemLexemes items ++ [.closeArray]
  | object members => .openObject :: memberLexemes members ++ [.closeObject]

def itemLexemes : List Json → List Lexeme
  | [] => []
  | [v] => v.lexemes
  | v :: w :: vs => v.lexemes ++ .comma :: itemLexemes (w :: vs)

def memberLexemes : List (Text × Json) → List Lexeme
  | [] => []
  | [(k, v)] => .string k :: .colon :: v.lexemes
  | (k, v) :: m :: ms => .string k :: .colon :: v.lexemes ++ .comma :: memberLexemes (m :: ms)

end

end Json
end Roster
