import Roster.Text.Cut
import Roster.Text.Grapheme.Conjunct
import Roster.Text.Grapheme.Property
import Roster.Text.Pictographic

/-! Extended grapheme clusters, Unicode 16.0, and the number of them in a text. -/
namespace Roster.Text
namespace GraphemeBreak

def isControl : GraphemeBreak → Bool
  | .cr | .lf | .control => true
  | _ => false

def joinsSyllable : GraphemeBreak → GraphemeBreak → Bool
  | .leading, .leading | .leading, .vowel | .leading, .openSyllable
  | .leading, .closedSyllable => true
  | .openSyllable, .vowel | .openSyllable, .trailing | .vowel, .vowel | .vowel, .trailing => true
  | .closedSyllable, .trailing | .trailing, .trailing => true
  | _, _ => false

def indicatorRun : Text → Nat
  | [] => 0
  | c :: s => if ofChar c = .regionalIndicator then indicatorRun s + 1 else 0

def followsPictograph (before : Text) : Bool :=
  match before.dropWhile fun c => ofChar c = .extend with
  | [] => false
  | c :: _ => isPictographic c

end GraphemeBreak

/-- Whether a text, nearest character first, ends in a consonant with a linker behind it. -/
def ConjunctBreak.isOpen (linked : Bool) : Text → Bool
  | [] => false
  | c :: s =>
    match ofChar c with
    | .linker => isOpen true s
    | .extend => isOpen linked s
    | .consonant => linked
    | .none => false

open GraphemeBreak in
def graphemeRule : CutRule
  | p :: before, n :: _ =>
    let l := ofChar p
    let r := ofChar n
    if l = .cr ∧ r = .lf then false
    else if l.isControl || r.isControl then true
    else if joinsSyllable l r then false
    else if r = .extend ∨ r = .zwj ∨ r = .spacingMark ∨ l = .prepend then false
    else if ConjunctBreak.ofChar n = .consonant ∧ ConjunctBreak.isOpen false (p :: before) then
      false
    else if l = .zwj ∧ isPictographic n ∧ followsPictograph before then false
    else if l = .regionalIndicator ∧ r = .regionalIndicator then
      indicatorRun (p :: before) % 2 == 0
    else true
  | _, _ => true

def graphemes (s : Text) : List Text := cut graphemeRule [] s

def graphemeLength (s : Text) : Nat := (graphemes s).length

end Roster.Text
