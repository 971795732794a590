import Roster.Text.Literal
import Roster.Toml.Value

/-! The lexical parts of TOML: blanks, comments, strings, keys, numbers, dates and times. A reader
takes the text and gives what it read with the text that follows. -/
namespace Roster.Toml
open Text

def isSpace (c : Char) : Bool := c = ' ' || c = '\t'

def isSpaceOrLine (c : Char) : Bool := isSpace c || c = '\n'

def skipSpace (s : Text) : Text := s.dropWhile isSpace

def isControl (c : Char) : Bool := decide (c.toNat < 0x20) || c.toNat == 0x7F

/-- Characters that may stand in a comment or in a string on one line. -/
def isInline (c : Char) : Bool := !isControl c || c = '\t'

def isInBlock (c : Char) : Bool := isInline c || c = '\n'

/-- What follows a comment, which ends in front of a line feed. -/
def skipComment? : Text → Option Text
  | '#' :: s =>
    if (s.takeWhile (· != '\n')).all isInline then some (s.dropWhile (· != '\n')) else none
  | s => some s

/-- Blanks, line feeds and comments inside an array. -/
def skipFiller? (s : Text) : Option Text :=
  match s.dropWhile isSpaceOrLine with
  | '#' :: r => do
    let r ← skipComment? ('#' :: r)
    if r.length < s.length then skipFiller? r else none
  | r => some r
termination_by s.length

/-- The text in front of a closing mark, and what follows the mark. -/
def until? (close : Text) : Text → Option (Text × Text)
  | [] => none
  | c :: s =>
    match after? close (c :: s) with
    | some r => some ([], r)
    | none => (until? close s).map fun (t, r) => (c :: t, r)

def literalString? (s : Text) : Option (Text × Text) := do
  let (t, r) ← until? ['\''] s
  if t.all isInline then some (t, r) else none

def scalarCode? (width : Nat) (s : Text) : Option (Text × Text) := do
  let (n, r) ← hexCode? 0 width s
  if n.isValidChar then some ([Char.ofNat n], r) else none

/-- An escape behind its backslash. -/
def escape? : Text → Option (Text × Text)
  | [] => none
  | c :: s =>
    if c = 'b' then some (['\x08'], s)
    else if c = 't' then some (['\t'], s)
    else if c = 'n' then some (['\n'], s)
    else if c = 'f' then some (['\x0c'], s)
    else if c = 'r' then some (['\r'], s)
    else if c = '"' ∨ c = '\\' then some ([c], s)
    else if c = 'u' then scalarCode? 4 s
    else if c = 'U' then scalarCode? 8 s
    else none

/-- An escape in a block of lines, where a backslash at the end of a line drops the blanks up to the
next character. -/
def blockEscape? (s : Text) : Option (Text × Text) :=
  match skipSpace s with
  | '\n' :: r => some ([], r.dropWhile isSpaceOrLine)
  | _ => escape? s

/-- The text of a basic string up to its closing mark. -/
def basicBody? (close : Text) (allowed : Char → Bool) (escaped? : Text → Option (Text × Text))
    (s : Text) : Option (Text × Text) :=
  match after? close s with
  | some r => some ([], r)
  | none =>
    match s with
    | [] => none
    | '\\' :: r => do
      let (t, after) ← escaped? r
      if after.length ≤ r.length then
        let (body, after) ← basicBody? close allowed escaped? after
        return (t ++ body, after)
      else none
    | c :: r => do
      if allowed c then
        let (body, after) ← basicBody? close allowed escaped? r
        return (c :: body, after)
      else none
termination_by s.length

def basicString? (s : Text) : Option (Text × Text) := basicBody? ['"'] isInline escape? s

def dropFirstLine : Text → Text
  | '\n' :: s => s
  | s => s

/-- Up to two more marks belong to a block of lines in front of its closing marks. -/
def extraMarks (mark : Char) (t : Text) : Text → Text × Text
  | c :: d :: s =>
    if c ≠ mark then (t, c :: d :: s)
    else if d ≠ mark then (t ++ [mark], d :: s)
    else (t ++ [mark, mark], s)
  | [c] => if c = mark then (t ++ [mark], []) else (t, [c])
  | [] => (t, [])

def literalBlock? (s : Text) : Option (Text × Text) := do
  let (t, r) ← until? ['\'', '\'', '\''] (dropFirstLine s)
  if t.all isInBlock then some (extraMarks '\'' t r) else none

def basicBlock? (s : Text) : Option (Text × Text) := do
  let (t, r) ← basicBody? ['"', '"', '"'] isInBlock blockEscape? (dropFirstLine s)
  return extraMarks '"' t r

def string? : Text → Option (Text × Text)
  | '"' :: '"' :: '"' :: s => basicBlock? s
  | '"' :: s => basicString? s
  | '\'' :: '\'' :: '\'' :: s => literalBlock? s
  | '\'' :: s => literalString? s
  | _ => none

def isBareKey (c : Char) : Bool :=
  ('a' ≤ c && c ≤ 'z') || ('A' ≤ c && c ≤ 'Z') || ('0' ≤ c && c ≤ '9') || c = '-' || c = '_'

def isKeyStart (c : Char) : Bool := isBareKey c || c = '"' || c = '\''

def keyPart? : Text → Option (Text × Text)
  | '"' :: s => basicString? s
  | '\'' :: s => literalString? s
  | s => if (s.takeWhile isBareKey).isEmpty then none
    else some (s.takeWhile isBareKey, s.dropWhile isBareKey)

/-- A dotted key and the blanks behind it. -/
def key? (s : Text) : Option (List Text × Text) := do
  let (part, r) ← keyPart? s
  match skipSpace r with
  | '.' :: r =>
    if (skipSpace r).length < s.length then
      let (parts, r) ← key? (skipSpace r)
      return (part :: parts, r)
    else none
  | r => return ([part], r)
termination_by s.length

def isDigit (c : Char) : Bool := '0' ≤ c && c ≤ '9'

/-- Digits of a class, each with at most one underscore in front. -/
def moreDigits (digit : Char → Bool) : Text → Text × Text
  | '_' :: d :: s =>
    if digit d then ('_' :: d :: (moreDigits digit s).1, (moreDigits digit s).2)
    else ([], '_' :: d :: s)
  | c :: s =>
    if digit c then (c :: (moreDigits digit s).1, (moreDigits digit s).2) else ([], c :: s)
  | [] => ([], [])

/-- Digits of a class with single underscores between them. -/
def digitRun (digit : Char → Bool) : Text → Text × Text
  | [] => ([], [])
  | c :: s =>
    if digit c then (c :: (moreDigits digit s).1, (moreDigits digit s).2) else ([], c :: s)

def sign : Text → Text × Text
  | '+' :: s => (['+'], s)
  | '-' :: s => (['-'], s)
  | s => ([], s)

/-- A point and digits, if they follow. -/
def fraction : Text → Text × Text
  | '.' :: s =>
    let (t, r) := digitRun isDigit s
    if t.isEmpty then ([], '.' :: s) else ('.' :: t, r)
  | s => ([], s)

def exponent : Text → Text × Text
  | [] => ([], [])
  | c :: s =>
    let (sg, r) := sign s
    let (t, r) := digitRun isDigit r
    if (c = 'e' ∨ c = 'E') ∧ !t.isEmpty then (c :: sg ++ t, r) else ([], c :: s)

/-- An integer with a base mark, such as `0x1F`. -/
def based? : Text → Option (Value × Text)
  | '0' :: mark :: s =>
    let digit : Option (Char → Bool) :=
      if mark = 'x' then some fun c => (hexValue? c).isSome
      else if mark = 'b' then some fun c => c = '0' || c = '1'
      else if mark = 'o' then some fun c => '0' ≤ c && c ≤ '7'
      else none
    match digit with
    | none => none
    | some digit =>
      let (t, r) := digitRun digit s
      if t.isEmpty then none else some (.integer ('0' :: mark :: t), r)
  | _ => none

def decimal? (s : Text) : Option (Value × Text) :=
  let (sg, r) := sign s
  let (whole, r) := match r with
    | '0' :: r => (['0'], r)
    | _ => digitRun isDigit r
  if whole.isEmpty then none
  else
    let (f, r) := fraction r
    let (e, r) := exponent r
    if f.isEmpty && e.isEmpty then some (.integer (sg ++ whole), r)
    else some (.float (sg ++ whole ++ f ++ e), r)

/-- Infinity or not-a-number, with or without a sign. -/
def special? (s : Text) : Option (Value × Text) :=
  let (sg, r) := sign s
  let named (name : Text) := (after? name r).map fun r => (Value.float (sg ++ name), r)
  named "inf".toList <|> named "nan".toList

def twoDigits? (low high : Nat) : Text → Option (Nat × Text)
  | a :: b :: s =>
    if isDigit a && isDigit b then
      let n := (a.toNat - '0'.toNat) * 10 + (b.toNat - '0'.toNat)
      if low ≤ n ∧ n ≤ high then some (n, s) else none
    else none
  | _ => none

def isLeapYear (y : Nat) : Bool := y % 4 == 0 && (y % 100 != 0 || y % 400 == 0)

def monthDays (y m : Nat) : Nat :=
  if m = 2 then if isLeapYear y then 29 else 28
  else if m = 4 ∨ m = 6 ∨ m = 9 ∨ m = 11 then 30
  else 31

/-- What follows a date such as `1979-05-27`, and whether the calendar has that day. -/
def calendarDate? (s : Text) : Option (Bool × Text) := do
  let (century, r) ← twoDigits? 0 99 s
  let (year, r) ← twoDigits? 0 99 r
  let (month, r) ← twoDigits? 1 12 (← after? ['-'] r)
  let (day, r) ← twoDigits? 1 31 (← after? ['-'] r)
  let y := century * 100 + year
  return (decide (1 ≤ y ∧ day ≤ monthDays y month), r)

/-- What follows a time such as `07:32:00.5`. -/
def clockTime? (s : Text) : Option Text := do
  let (_, r) ← twoDigits? 0 23 s
  let (_, r) ← twoDigits? 0 59 (← after? [':'] r)
  let (_, r) ← twoDigits? 0 59 (← after? [':'] r)
  match r with
  | '.' :: d :: t => if isDigit d then return t.dropWhile isDigit else return r
  | _ => return r

/-- What follows a time offset, if there is one. -/
def skipOffset : Text → Text
  | [] => []
  | c :: s =>
    let zone := do
      let (_, r) ← twoDigits? 0 23 s
      let (_, r) ← twoDigits? 0 59 (← after? [':'] r)
      return r
    if c = 'Z' ∨ c = 'z' then s
    else if c = '+' ∨ c = '-' then zone.getD (c :: s)
    else c :: s

/-- The text in front of its own rest `r`. -/
def consumed (s r : Text) : Text := s.take (s.length - r.length)

/-- A date, or a date and a time. It is refused if the calendar has no such day. -/
def dated? (s : Text) : Option (Option Value × Text) := do
  let (real, r) ← calendarDate? s
  let timed : Option Text :=
    match r with
    | c :: t => if c = 'T' ∨ c = 't' ∨ c = ' ' then (clockTime? t).map skipOffset else none
    | [] => none
  match timed with
  | some r => return (if real then some (.datetime (consumed s r)) else none, r)
  | none => return (if real then some (.date (consumed s r)) else none, r)

def time? (s : Text) : Option (Value × Text) :=
  (clockTime? s).map fun r => (.time (consumed s r), r)

def boolean? (s : Text) : Option (Value × Text) :=
  ((after? "true".toList s).map fun r => (.boolean true, r)) <|>
    ((after? "false".toList s).map fun r => (.boolean false, r))

/-- A value that holds no other values, whatever its length. -/
def scalar? (s : Text) : Option (Value × Text) :=
  match s with
  | '"' :: _ | '\'' :: _ => (string? s).map fun (t, r) => (.string t, r)
  | _ =>
    (boolean? s).or <|
      match dated? s with
      | some (v, r) => v.map fun v => (v, r)
      | none => (time? s).or ((based? s).or ((decimal? s).or (special? s)))

/-- Why a text is no document, or one that cannot be read. -/
inductive Fault where
  | malformed
  | longInteger (digits : Nat)
  | tooDeep
  deriving DecidableEq, Repr

def orMalformed {α : Type} : Option α → Except Fault α
  | some a => .ok a
  | none => .error .malformed

/-- The most digits of an integer in decimal form. Other bases have no limit. -/
def digitLimit : Nat := 4300

def Value.decimalDigits : Value → Nat
  | .integer ('0' :: _) => 1
  | .integer literal => literal.countP isDigit
  | _ => 0

/-- A value that holds no other values. -/
def scalar (s : Text) : Except Fault (Value × Text) := do
  let (v, r) ← orMalformed (scalar? s)
  if digitLimit < v.decimalDigits then .error (.longInteger v.decimalDigits) else return (v, r)

end Roster.Toml
