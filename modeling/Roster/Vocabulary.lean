import Roster.Operation.Kind
import Roster.Token

/-! Reserved words and punctuation of the statement grammar. -/
namespace Roster

/-- The words that begin a statement. -/
inductive Keyword where
  | add | create | remove | display
  deriving DecidableEq, Repr

namespace Keyword

def all : List Keyword := [.add, .create, .remove, .display]

def kind : Keyword → OperationKind
  | .add => .add
  | .create => .create
  | .remove => .remove
  | .display => .display

def value (k : Keyword) : TokenValue := .word k.kind.name

def ofValue? (v : TokenValue) : Option Keyword := all.find? fun k => k.value == v

@[simp] theorem ofValue?_value (k : Keyword) : ofValue? k.value = some k := by cases k <;> rfl

end Keyword

namespace Vocabulary

def keywords : List TokenValue := Keyword.all.map Keyword.value

def andWord : TokenValue := .word "and".toList

def fromWord : TokenValue := .word "from".toList

def toWord : TokenValue := .word "to".toList

/-- Words that no list element may hold. -/
def reserved : List TokenValue := keywords ++ [andWord, fromWord, toWord]

def comma : TokenValue := .punctuation [',']

def separators : List TokenValue := [comma, andWord]

def terminator (m : Modifier) : TokenValue := .punctuation [m.mark]

def terminators : List TokenValue := Modifier.all.map terminator

def modifierOf? (v : TokenValue) : Option Modifier := Modifier.all.find? fun m => terminator m == v

@[simp] theorem modifierOf?_terminator (m : Modifier) : modifierOf? (terminator m) = some m := by
  cases m <;> rfl

/-- What may begin or continue a list element. -/
def listElement : List TokenValue := [.blank, .anyWord]

end Vocabulary

def Token.isTerminator (t : Token) : Bool := Vocabulary.terminators.contains t.value

end Roster
