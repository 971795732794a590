import Roster.Json.Basic
import Roster.Text.Quoted

/-! JSON text: compact, and with every item on a line of its own. -/
namespace Roster.Json

def escape (c : Char) : Text :=
  if c = '"' ∨ c = '\\' then ['\\', c]
  else if c = '\x08' then ['\\', 'b']
  else if c = '\x0c' then ['\\', 'f']
  else if c = '\n' then ['\\', 'n']
  else if c = '\r' then ['\\', 'r']
  else if c = '\t' then ['\\', 't']
  else if c.toNat < 0x20 then '\\' :: 'u' :: Text.hexDigits 4 c.toNat
  else [c]

namespace Lexeme

def text : Lexeme → Text
  | openArray => ['[']
  | closeArray => [']']
  | openObject => ['{']
  | closeObject => ['}']
  | comma => [',']
  | colon => [':']
  | null => "null".toList
  | bool b => if b then "true".toList else "false".toList
  | number literal => literal
  | string s => '"' :: s.flatMap escape ++ ['"']

def isOpening : Lexeme → Bool
  | openArray | openObject => true
  | _ => false

def isClosing : Lexeme → Bool
  | closeArray | closeObject => true
  | _ => false

end Lexeme

def newLine (depth : Nat) : Text := '\n' :: List.replicate (2 * depth) ' '

/-- Lexemes inside `depth` brackets; `fresh` right after an opening bracket. -/
def layout (depth : Nat) (fresh : Bool) : List Lexeme → Text
  | [] => []
  | l :: ls =>
    if l.isClosing then
      (if fresh then [] else newLine (depth - 1)) ++ l.text ++ layout (depth - 1) false ls
    else
      let lead := if fresh then newLine depth else []
      if l.isOpening then lead ++ l.text ++ layout (depth + 1) true ls
      else
        let gap := match l with
          | .comma => newLine depth
          | .colon => [' ']
          | _ => []
        lead ++ l.text ++ gap ++ layout depth false ls

def compact (v : Json) : Text := v.lexemes.flatMap Lexeme.text

def indented (v : Json) : Text := layout 0 false v.lexemes

end Roster.Json
