import Roster.Text.Basic

/-! Sets and tables of code points as ascending lists of disjoint ranges. -/
namespace Roster.Text

abbrev CodeRanges := List (Nat × Nat)

def CodeRanges.contains : CodeRanges → Nat → Bool
  | [], _ => false
  | (first, last) :: rest, n =>
    if n < first then false
    else if n ≤ last then true
    else CodeRanges.contains rest n

abbrev CodeTable (α : Type) := List (Nat × Nat × α)

def CodeTable.find? {α : Type} : CodeTable α → Nat → Option α
  | [], _ => none
  | (first, last, a) :: rest, n =>
    if n < first then none
    else if n ≤ last then some a
    else CodeTable.find? rest n

end Roster.Text
