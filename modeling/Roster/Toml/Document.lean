import Roster.Toml.Scalar
import Roster.Toml.Tree

/-! Reading a TOML document, version 1.0: its values, then its statements, a line each. -/
namespace Roster.Toml

/-- How deep values may nest: an array counts two, a table in braces three, for the calls that a
reader nests at a value within another. A thousand nested calls are allowed; this many are left
beside those around the reader and those that the innermost value takes. Both vary, so the limit is
approximate: a document whose depth comes within a few calls of it may be judged otherwise. -/
def nestingLimit : Nat := 985

mutual

/-- The value at the front, and what follows it. There is room for that much nesting. -/
def value (room : Nat) (s : Text) : Except Fault (Value × Text) :=
  match s with
  | '[' :: r => do
    if room < 2 then throw .tooDeep
    let r' ← orMalformed (skipFiller? r)
    if r'.length ≤ r.length then
      let (vs, r) ← items (room - 2) r'
      return (.array vs, r)
    else throw .malformed
  | '{' :: r => do
    if room < 3 then throw .tooDeep
    if (skipSpace r).length ≤ r.length then
      match skipSpace r with
      | '}' :: r => return (.table [], r)
      | _ =>
        let (entries, r) ← pairs (room - 3) [] (skipSpace r)
        return (.table (tableOf entries), r)
    else throw .malformed
  | s => scalar s
termination_by (s.length, 0)

/-- Items up to the closing bracket, which a comma may precede. -/
def items (room : Nat) (s : Text) : Except Fault (List Value × Text) :=
  match s with
  | ']' :: r => .ok ([], r)
  | s => do
    let (v, r) ← value room s
    match ← orMalformed (skipFiller? r) with
    | ']' :: r => return ([v], r)
    | ',' :: r =>
      let r ← orMalformed (skipFiller? r)
      if r.length < s.length then
        let (vs, r) ← items room r
        return (v :: vs, r)
      else throw .malformed
    | _ => throw .malformed
termination_by (s.length, 1)

/-- Pairs up to the closing brace, added to those already read. -/
def pairs (room : Nat) (entries : Entries) (s : Text) : Except Fault (Entries × Text) := do
  let (key, r) ← orMalformed (key? s)
  match r with
  | '=' :: r =>
    if (skipSpace r).length < s.length then
      let (v, r) ← value room (skipSpace r)
      let entries ← orMalformed (entries.insert 0 [] key v)
      match skipSpace r with
      | '}' :: r => return (entries, r)
      | ',' :: r =>
        if (skipSpace r).length < s.length then pairs room entries (skipSpace r)
        else throw .malformed
      | _ => throw .malformed
    else throw .malformed
  | _ => throw .malformed
termination_by (s.length, 1)

end

/-- What has been read of a document: the header in force, the number of headers, the tables. -/
structure Draft where
  header : List Text
  headers : Nat
  entries : Entries

/-- The key of a header and what follows its closing mark. -/
def headerKey? (close : Text) (s : Text) : Option (List Text × Text) := do
  let (key, r) ← key? (skipSpace s)
  return (key, ← Text.after? close r)

def keyValue (d : Draft) (s : Text) : Except Fault (Draft × Text) := do
  let (key, r) ← orMalformed (key? s)
  match r with
  | '=' :: r =>
    let (v, r) ← value nestingLimit (skipSpace r)
    let entries ← orMalformed (d.entries.insert d.headers d.header key v)
    return ({ d with entries }, r)
  | _ => throw .malformed

def appendHeader? (d : Draft) (s : Text) : Option (Draft × Text) := do
  let (key, r) ← headerKey? [']', ']'] s
  return (⟨key, d.headers + 1, ← d.entries.append key⟩, r)

def tableHeader? (d : Draft) (s : Text) : Option (Draft × Text) := do
  let (key, r) ← headerKey? [']'] s
  return (⟨key, d.headers + 1, ← d.entries.define (d.headers + 1) key⟩, r)

/-- One statement and what follows it on its line. A comment is left for the line's end. -/
def statement (d : Draft) : Text → Except Fault (Draft × Text)
  | '[' :: '[' :: s => orMalformed (appendHeader? d s)
  | '[' :: s => orMalformed (tableHeader? d s)
  | '#' :: s => .ok (d, '#' :: s)
  | c :: s => if isKeyStart c then keyValue d (c :: s) else .error .malformed
  | [] => .error .malformed

def statements (d : Draft) (s : Text) : Except Fault Entries :=
  match skipSpace s with
  | [] => .ok d.entries
  | '\n' :: r => if r.length < s.length then statements d r else .error .malformed
  | r => do
    let (d, r) ← statement d r
    match ← orMalformed (skipComment? (skipSpace r)) with
    | [] => return d.entries
    | '\n' :: r => if r.length < s.length then statements d r else throw .malformed
    | _ => throw .malformed
termination_by s.length

/-- Reads a whole document; the first fault ends the reading. -/
def read (s : Text) : Except Fault Table := (statements ⟨[], 0, []⟩ s).map tableOf

end Roster.Toml
