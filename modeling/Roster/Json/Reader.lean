import Roster.Json.Basic
import Roster.Text.Literal

/-! Reading JSON text: first its lexemes, then a machine that builds the value over a stack of open
containers. Not-a-number and the infinities count as numbers. -/
namespace Roster.Json
open Text

/-- The scalar value of a `\u` escape, whose four digits stand at the front. A high surrogate needs
the escape of a low one behind it. -/
def unicodeEscape? (s : Text) : Option (Char × Text) := do
  let (high, s) ← hexCode? 0 4 s
  if high < 0xD800 ∨ 0xE000 ≤ high then return (Char.ofNat high, s)
  else if high < 0xDC00 then
    let (low, s) ← hexCode? 0 4 (← after? ['\\', 'u'] s)
    if 0xDC00 ≤ low ∧ low < 0xE000 then
      return (Char.ofNat (0x10000 + (high - 0xD800) * 0x400 + (low - 0xDC00)), s)
    else none
  else none

/-- One character of a string, escaped or not. -/
def stringChar? : Text → Option (Char × Text)
  | [] => none
  | c :: s =>
    if c = '\\' then
      match s with
      | [] => none
      | e :: s =>
        if e = '"' ∨ e = '\\' ∨ e = '/' then some (e, s)
        else if e = 'b' then some ('\x08', s)
        else if e = 'f' then some ('\x0c', s)
        else if e = 'n' then some ('\n', s)
        else if e = 'r' then some ('\r', s)
        else if e = 't' then some ('\t', s)
        else if e = 'u' then unicodeEscape? s
        else none
    else if c.toNat < 0x20 then none
    else some (c, s)

/-- The text up to the closing quote, and what follows. -/
def stringBody? (s : Text) : Option (Text × Text) :=
  if s.head? = some '"' then some ([], s.tail)
  else
    match stringChar? s with
    | none => none
    | some (c, r) =>
      if r.length < s.length then (stringBody? r).map fun (t, r) => (c :: t, r) else none
termination_by s.length

def isDigit (c : Char) : Bool := '0' ≤ c && c ≤ '9'

def digits (s : Text) : Text × Text := (s.takeWhile isDigit, s.dropWhile isDigit)

/-- A point and digits, if they follow. -/
def fraction : Text → Text × Text
  | '.' :: s => if (digits s).1.isEmpty then ([], '.' :: s) else ('.' :: (digits s).1, (digits s).2)
  | s => ([], s)

def sign : Text → Text × Text
  | '+' :: s => (['+'], s)
  | '-' :: s => (['-'], s)
  | s => ([], s)

/-- An exponent, if one follows. -/
def exponent : Text → Text × Text
  | [] => ([], [])
  | c :: s =>
    let (sg, r) := sign s
    if (c = 'e' ∨ c = 'E') ∧ !(digits r).1.isEmpty then (c :: sg ++ (digits r).1, (digits r).2)
    else ([], c :: s)

/-- The most digits of a number in front of its point. -/
def digitLimit : Nat := 4300

/-- A number without its sign. -/
def unsigned? (s : Text) : Option (Text × Text) :=
  let whole := match s with
    | '0' :: r => (['0'], r)
    | _ => digits s
  if whole.1.isEmpty ∨ digitLimit < whole.1.length then none
  else
    let (f, r) := fraction whole.2
    let (e, r) := exponent r
    some (whole.1 ++ f ++ e, r)

def number? (s : Text) : Option (Text × Text) :=
  let literal (name : Text) := (after? name s).map fun r => (name, r)
  literal "NaN".toList <|> literal "Infinity".toList <|> literal "-Infinity".toList <|>
    match s with
    | '-' :: r => (unsigned? r).map fun (n, r) => ('-' :: n, r)
    | _ => unsigned? s

/-- The lexeme at the front, and what follows it. -/
def lexeme? : Text → Option (Lexeme × Text)
  | '[' :: s => some (.openArray, s)
  | ']' :: s => some (.closeArray, s)
  | '{' :: s => some (.openObject, s)
  | '}' :: s => some (.closeObject, s)
  | ',' :: s => some (.comma, s)
  | ':' :: s => some (.colon, s)
  | '"' :: s => (stringBody? s).map fun (t, r) => (.string t, r)
  | s =>
    let literal (l : Lexeme) (name : Text) := (after? name s).map fun r => (l, r)
    literal .null "null".toList <|> literal (.bool true) "true".toList <|>
      literal (.bool false) "false".toList <|>
      (number? s).map fun (n, r) => (.number n, r)

def isSpace (c : Char) : Bool := c = ' ' || c = '\t' || c = '\n' || c = '\r'

def readLexemes? : Text → Option (List Lexeme)
  | [] => some []
  | c :: s =>
    if isSpace c then readLexemes? s
    else
      match lexeme? (c :: s) with
      | none => none
      | some (l, r) =>
        if r.length < (c :: s).length then (readLexemes? r).map (l :: ·) else none
termination_by s => s.length
decreasing_by
  · exact Nat.lt_succ_self _
  · assumption

/-- A container that is still open, with what it holds so far, the last first. -/
inductive Frame where
  | array (items : List Json)
  | object (members : List (Text × Json)) (name : Text)
  deriving Repr

/-- What the machine is ready for. -/
inductive Control where
  | value
  | firstItem
  | name (members : List (Text × Json))
  | colon (members : List (Text × Json)) (name : Text)
  | done (v : Json)
  deriving Repr

structure Machine where
  frames : List Frame
  control : Control
  deriving Repr

/-- The most containers that a value may stand in. -/
def depthLimit : Nat := 200

namespace Machine

/-- The first lexeme of a value. -/
def beginValue (frames : List Frame) (l : Lexeme) : Option Machine :=
  if depthLimit < frames.length then none
  else
    match l with
    | .null => some ⟨frames, .done .null⟩
    | .bool b => some ⟨frames, .done (.bool b)⟩
    | .number literal => some ⟨frames, .done (.number literal)⟩
    | .string s => some ⟨frames, .done (.string s)⟩
    | .openArray => some ⟨.array [] :: frames, .firstItem⟩
    | .openObject => some ⟨frames, .name []⟩
    | _ => none

/-- The lexeme behind a finished value. -/
def continueWith (v : Json) : List Frame → Lexeme → Option Machine
  | .array items :: frames, .comma => some ⟨.array (v :: items) :: frames, .value⟩
  | .array items :: frames, .closeArray => some ⟨frames, .done (.array (v :: items).reverse)⟩
  | .object members name :: frames, .comma => some ⟨frames, .name ((name, v) :: members)⟩
  | .object members name :: frames, .closeObject =>
    some ⟨frames, .done (.object ((name, v) :: members).reverse)⟩
  | _, _ => none

def step (m : Machine) (l : Lexeme) : Option Machine :=
  match m.control, l with
  | .value, l => beginValue m.frames l
  | .firstItem, .closeArray => some ⟨m.frames.tail, .done (.array [])⟩
  | .firstItem, l => beginValue m.frames l
  | .name [], .closeObject => some ⟨m.frames, .done (.object [])⟩
  | .name members, .string k => some ⟨m.frames, .colon members k⟩
  | .colon members k, .colon => some ⟨.object members k :: m.frames, .value⟩
  | .done v, l => continueWith v m.frames l
  | _, _ => none

end Machine

/-- The value that lexemes spell. -/
def ofLexemes? (ls : List Lexeme) : Option Json := do
  match ← ls.foldlM Machine.step ⟨[], .value⟩ with
  | ⟨[], .done v⟩ => some v
  | _ => none

def read? (s : Text) : Option Json := do ofLexemes? (← readLexemes? s)

end Roster.Json
