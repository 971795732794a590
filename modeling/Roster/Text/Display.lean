import Roster.Text.Width

/-! Text as a display shows it: five control characters are dropped, then tabs fill up to the next
multiple of eight columns of their line. Complaints are shown without style sequences. -/
namespace Roster.Text

def isUndisplayed (c : Char) : Bool := [0x7, 0x8, 0xB, 0xC, 0xD].contains c.toNat

def expandTabs (column : Nat) : Text → Text
  | [] => []
  | c :: s =>
    if c = '\t' then
      let width := 8 - column % 8
      List.replicate width ' ' ++ expandTabs (column + width) s
    else if c = '\n' then c :: expandTabs 0 s
    else c :: expandTabs (column + charWidth c) s

def displayed (s : Text) : Text := expandTabs 0 (s.filter fun c => !isUndisplayed c)

/-- What may stand between the bracket of a style sequence and its closing letter. -/
def isStyleParameter (c : Char) : Bool := c = ';' || c = '?' || ('0' ≤ c && c ≤ '9')

def isStyleLetter (c : Char) : Bool := ('a' ≤ c && c ≤ 'z') || ('A' ≤ c && c ≤ 'Z')

/-- A text without the sequences that set colours and the like on a terminal. -/
def dropStyles : Text → Text
  | [] => []
  | '\x1b' :: '[' :: s =>
    match _h : s.dropWhile isStyleParameter with
    | c :: r => if isStyleLetter c then dropStyles r else '\x1b' :: dropStyles ('[' :: s)
    | [] => '\x1b' :: dropStyles ('[' :: s)
  | c :: s => c :: dropStyles s
termination_by s => s.length
decreasing_by
  · have hle := (List.dropWhile_sublist (l := s) isStyleParameter).length_le
    simp only [_h, List.length_cons] at hle ⊢
    omega
  all_goals exact Nat.lt_succ_self _

end Roster.Text
