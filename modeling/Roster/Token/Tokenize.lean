import Roster.Diagnostic.Excerpt
import Roster.Text.Letter
import Roster.Text.WordBreak

/-! From a source to its tokens. The source is trimmed, split into lines, and each line is cut into
words; columns advance by graphemes. -/
namespace Roster

structure Segment where
  text : Text
  line : Text
  lineNumber : Nat
  column : Nat
  deriving DecidableEq, Repr

namespace Segment

/-- Pieces of a line placed one after another from a column on. -/
def place (line : Text) (lineNumber column : Nat) : List Text → List Segment
  | [] => []
  | piece :: pieces =>
    ⟨piece, line, lineNumber, column⟩ ::
      place line lineNumber (column + piece.graphemeLength) pieces

def ofLines (lineNumber : Nat) : List Text → List Segment
  | [] => []
  | line :: lines => place line lineNumber 1 line.words ++ ofLines (lineNumber + 1) lines

end Segment

def segments (source : Text) : List Segment :=
  Segment.ofLines 1 (source.trim Text.isBlank).lines

/-- Punctuation of the grammar: one of `,` `.` `!` `?`. -/
def isMark : Text → Bool
  | [c] => ",.!?".toList.contains c
  | _ => false

/-- The class of one segment; an empty segment is whitespace. -/
def classify (s : Text) : TokenValue :=
  if s.all Text.isBlank then .blank
  else if isMark s then .punctuation s
  else if s.all Text.isLetter then .word s
  else .unknown s

def Token.ofSegment (s : Segment) : Token := ⟨classify s.text, s.line, s.lineNumber, s.column⟩

/-- Fails at the first token of unknown class. -/
def tokenize (source : Text) : Except LexError (List Token) :=
  let tokens := (segments source).map Token.ofSegment
  match tokens.find? fun t => t.value.kind = .unknown with
  | some t => .error ⟨t⟩
  | none => .ok tokens

/-- The class of the last segment that is not whitespace. -/
def lastValue? (source : Text) : Option TokenValue :=
  ((segments source).map fun s => classify s.text).reverse.find? fun v => v.kind ≠ .whitespace

/-- Whether a source needs no further line: its last token is no word. -/
def isComplete (source : Text) : Bool :=
  match lastValue? source with
  | none => false
  | some v => v.kind ≠ .word

end Roster
