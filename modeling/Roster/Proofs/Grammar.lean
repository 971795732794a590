import Roster.Operation.Basic
import Roster.Vocabulary

/-! The statement grammar over token values. A derivation carries the operations that it stands
for; positions and the texts of whitespace play no part in it. -/
namespace Roster.Grammar
open Vocabulary

/-- Words a list element is made of. -/
def IsName (v : TokenValue) : Prop := v.kind = .word ∧ v ∉ reserved

instance (v : TokenValue) : Decidable (IsName v) := inferInstanceAs (Decidable (_ ∧ _))

/-- Whitespace, possibly none. -/
def Gap (vs : List TokenValue) : Prop := ∀ v ∈ vs, v.kind = .whitespace

instance (vs : List TokenValue) : Decidable (Gap vs) := inferInstanceAs (Decidable (∀ _ ∈ _, _))

/-- One space where whitespace stands between two words, else nothing. -/
def space (gap : List TokenValue) : Text := if gap = [] then [] else [' ']

/-- Words with optional whitespace between them, and their text. -/
inductive Element : List TokenValue → Text → Prop
  | word {v : TokenValue} : IsName v → Element [v] v.text
  | next {v : TokenValue} {gap vs : List TokenValue} {text : Text} :
      IsName v → Gap gap → Element vs text →
      Element (v :: (gap ++ vs)) (v.text ++ space gap ++ text)

inductive Separator : List TokenValue → Prop
  | comma : Separator [comma]
  | and : Separator [andWord]
  | commaAnd {gap : List TokenValue} : Gap gap → Separator (comma :: (gap ++ [andWord]))

/-- A list from its first element on, with whitespace at its end. -/
inductive Elements : List TokenValue → List Text → Prop
  | last {vs gap : List TokenValue} {text : Text} :
      Element vs text → Gap gap → Elements (vs ++ gap) [text]
  | more {vs gap separator gap' rest : List TokenValue} {text : Text} {texts : List Text} :
      Element vs text → Gap gap → Separator separator → Gap gap' → Elements rest texts →
      Elements (vs ++ (gap ++ (separator ++ (gap' ++ rest)))) (text :: texts)

/-- A list with whitespace around it. -/
inductive Names : List TokenValue → List Text → Prop
  | mk {gap vs : List TokenValue} {texts : List Text} :
      Gap gap → Elements vs texts → Names (gap ++ vs) texts

/-- A statement and its operation. What is displayed or removed is never overwritten. -/
inductive Sentence : List TokenValue → Operation → Prop
  | create {list : List TokenValue} {departments : List Text} {m : Modifier} :
      Names list departments →
      Sentence (Keyword.create.value :: (list ++ [terminator m])) (.create departments m)
  | display {list : List TokenValue} {departments : List Text} {m : Modifier} :
      Names list departments → m ≠ .overwrite →
      Sentence (Keyword.display.value :: (list ++ [terminator m])) (.display departments m)
  | add {list list' : List TokenValue} {names departments : List Text} {m : Modifier} :
      Names list names → Names list' departments →
      Sentence (Keyword.add.value :: (list ++ toWord :: (list' ++ [terminator m])))
        (.add names departments m)
  | remove {list : List TokenValue} {departments : List Text} {m : Modifier} :
      Names list departments → m ≠ .overwrite →
      Sentence (Keyword.remove.value :: (list ++ [terminator m])) (.remove [] departments m)
  | removeFrom {list list' : List TokenValue} {names departments : List Text} {m : Modifier} :
      Names list names → Names list' departments → m ≠ .overwrite →
      Sentence (Keyword.remove.value :: (list ++ fromWord :: (list' ++ [terminator m])))
        (.remove names departments m)

/-- Statements with optional whitespace before, between and behind them. -/
inductive Program : List TokenValue → List Operation → Prop
  | blank {gap : List TokenValue} : Gap gap → Program gap []
  | sentence {gap vs rest : List TokenValue} {op : Operation} {ops : List Operation} :
      Gap gap → Sentence vs op → Program rest ops → Program (gap ++ (vs ++ rest)) (op :: ops)

end Roster.Grammar
