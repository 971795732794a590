import Roster.Text.Blank
import Roster.Text.Grapheme
import Roster.Token

/-! Excerpts of a source line with carets under a token. -/
namespace Roster

/-- Padding up to a column, then a caret for every grapheme of the text. -/
def pointer (text : Text) (column : Int) : Text × Text :=
  (List.replicate (column - 1).toNat ' ', List.replicate text.graphemeLength '^')

def caretLine (text : Text) (column : Int) : Text :=
  (pointer text column).1 ++ (pointer text column).2

namespace Token

/-- `line L, column C`. -/
def place (t : Token) : Text :=
  "line ".toList ++ Text.ofInt t.lineNumber ++ ", column ".toList ++ Text.ofInt t.column

/-- The line of a token and the carets under it, each on a line of its own. -/
def excerpt (t : Token) : Text :=
  "\n  ".toList ++ t.line.trimEnd Text.isMargin ++ "\n  ".toList ++
    caretLine t.value.text t.column

end Token

/-- A token that is no whitespace, no word and no punctuation of the grammar. -/
structure LexError where
  token : Token
  deriving DecidableEq, Repr

def LexError.message (e : LexError) : Text :=
  "Error on ".toList ++ e.token.place ++ ": ".toList ++ e.token.value.describe ++
    e.token.excerpt

end Roster
