import Roster.Text.Ranges

/-! Blank characters. `isBlank` is the White_Space property; `isMargin` adds the four information
separators and is what excerpts and session lines are trimmed by. -/
namespace Roster.Text

def blankCodes : List Nat :=
  [0x9, 0xA, 0xB, 0xC, 0xD, 0x20, 0x85, 0xA0, 0x1680, 0x2000, 0x2001, 0x2002, 0x2003, 0x2004,
    0x2005, 0x2006, 0x2007, 0x2008, 0x2009, 0x200A, 0x2028, 0x2029, 0x202F, 0x205F, 0x3000]

def isBlank (c : Char) : Bool := blankCodes.contains c.toNat

def isMargin (c : Char) : Bool := isBlank c || decide (0x1C ≤ c.toNat ∧ c.toNat ≤ 0x1F)

theorem isMargin_of_isBlank {c : Char} (h : isBlank c = true) : isMargin c = true := by
  simp [isMargin, h]

end Roster.Text
