import Roster.Text.Quoted

/-! Tokens: a classified value and the place where it stands. -/
namespace Roster

inductive TokenKind where
  | whitespace | word | punctuation | unknown
  deriving DecidableEq, Repr

namespace TokenKind

def all : List TokenKind := [.whitespace, .word, .punctuation, .unknown]

def name : TokenKind → Text
  | .whitespace => "whitespace".toList
  | .word => "word".toList
  | .punctuation => "punctuation".toList
  | .unknown => "unknown".toList

def ofName? (s : Text) : Option TokenKind := all.find? fun k => k.name == s

@[simp] theorem ofName?_name (k : TokenKind) : ofName? k.name = some k := by cases k <;> rfl

end TokenKind

/-- Whitespace found in a source carries no text. Where values are expected, an empty text stands
for any token of the kind. -/
structure TokenValue where
  kind : TokenKind
  text : Text
  deriving DecidableEq, Repr

namespace TokenValue

def blank : TokenValue := ⟨.whitespace, []⟩

def anyWord : TokenValue := ⟨.word, []⟩

def word (text : Text) : TokenValue := ⟨.word, text⟩

def punctuation (text : Text) : TokenValue := ⟨.punctuation, text⟩

def unknown (text : Text) : TokenValue := ⟨.unknown, text⟩

def describe (v : TokenValue) : Text :=
  if v.text.isEmpty then "any ".toList ++ v.kind.name ++ " token".toList
  else v.kind.name ++ " token \"".toList ++ v.text ++ ['"']

end TokenValue

/-- Line numbers and columns of a source start at one; columns count graphemes. The line is the
whole physical line with its line feed. -/
structure Token where
  value : TokenValue
  line : Text
  lineNumber : Int
  column : Int
  deriving DecidableEq, Repr

namespace Token

def isBlank (t : Token) : Bool := t.value.kind = .whitespace

def summary (t : Token) : Text :=
  "Token(".toList ++ t.value.kind.name ++ ", ".toList ++ t.value.text.quoted ++ ", ".toList ++
    Text.ofInt t.lineNumber ++ ':' :: Text.ofInt t.column ++ [')']

end Token
end Roster
