import Roster.Text.Cut
import Roster.Text.Pictographic
import Roster.Text.WordBreak.Property

/-! Default word boundaries, Unicode 16.0. -/
namespace Roster.Text
namespace WordBreak

def isLineEnd : WordBreak → Bool
  | .cr | .lf | .newline => true
  | _ => false

/-- Classes that belong to the character before them. -/
def isAttached : WordBreak → Bool
  | .extend | .format | .zwj => true
  | _ => false

def isLetter : WordBreak → Bool
  | .aLetter | .hebrewLetter => true
  | _ => false

/-- Marks that hold a word together between two letters. -/
def isWordInner : WordBreak → Bool
  | .midLetter | .midNumLet | .singleQuote => true
  | _ => false

/-- Marks that hold a number together between two digits. -/
def isNumberInner : WordBreak → Bool
  | .midNum | .midNumLet | .singleQuote => true
  | _ => false

def isConnected : WordBreak → Bool
  | .aLetter | .hebrewLetter | .numeric | .katakana => true
  | _ => false

/-- Whether classes `l` and `r` stay together, with `before` in front of `l` and `after` behind
`r`. -/
def joins (before l r after : WordBreak) : Bool :=
  l.isLetter && r.isLetter
  || l.isLetter && r.isWordInner && after.isLetter
  || before.isLetter && l.isWordInner && r.isLetter
  || l == .hebrewLetter && r == .singleQuote
  || l == .hebrewLetter && r == .doubleQuote && after == .hebrewLetter
  || before == .hebrewLetter && l == .doubleQuote && r == .hebrewLetter
  || l == .numeric && r == .numeric
  || l.isLetter && r == .numeric
  || l == .numeric && r.isLetter
  || before == .numeric && l.isNumberInner && r == .numeric
  || l == .numeric && r.isNumberInner && after == .numeric
  || l == .katakana && r == .katakana
  || (l.isConnected || l == .extendNumLet) && r == .extendNumLet
  || l == .extendNumLet && r.isConnected

def ofHead : Text → WordBreak
  | [] => .other
  | c :: _ => ofChar c

def skipAttached (s : Text) : Text := s.dropWhile fun c => (ofChar c).isAttached

/-- Regional indicators in an unbroken run, attached characters apart. -/
def indicatorRun : Text → Nat
  | [] => 0
  | c :: s =>
    if ofChar c = .regionalIndicator then indicatorRun s + 1
    else if (ofChar c).isAttached then indicatorRun s
    else 0

end WordBreak

open WordBreak in
def wordRule : CutRule
  | p :: before, n :: after =>
    let l := ofChar p
    let r := ofChar n
    if l = .cr ∧ r = .lf then false
    else if l.isLineEnd || r.isLineEnd then true
    else if l = .zwj ∧ isPictographic n then false
    else if l = .wSegSpace ∧ r = .wSegSpace then false
    else if r.isAttached then false
    else
      let back := skipAttached (p :: before)
      if ofHead back = .regionalIndicator ∧ r = .regionalIndicator then
        indicatorRun back % 2 == 0
      else
        !joins (ofHead (skipAttached back.tail)) (ofHead back) r (ofHead (skipAttached after))
  | _, _ => true

def words (s : Text) : List Text := cut wordRule [] s

@[simp] theorem flatten_words (s : Text) : (words s).flatten = s := flatten_cut _ _ _

end Roster.Text
