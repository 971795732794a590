import Roster.Text.Basic

/-! Small readers on text: fixed literals, digits and hexadecimal codes. -/
namespace Roster.Text

/-- What follows a literal, if the text begins with it. -/
def after? : Text → Text → Option Text
  | [], s => some s
  | _ :: _, [] => none
  | p :: ps, c :: s => if p = c then after? ps s else none

@[simp] theorem after?_append (literal s : Text) : after? literal (literal ++ s) = some s := by
  induction literal with
  | nil => cases s <;> rfl
  | cons c cs ih => simp [after?, ih]

def hexValue? (c : Char) : Option Nat :=
  if '0' ≤ c ∧ c ≤ '9' then some (c.toNat - '0'.toNat)
  else if 'a' ≤ c ∧ c ≤ 'f' then some (c.toNat - 'a'.toNat + 10)
  else if 'A' ≤ c ∧ c ≤ 'F' then some (c.toNat - 'A'.toNat + 10)
  else none

/-- The number of exactly `width` hexadecimal digits behind `n`, and what follows. -/
def hexCode? (n : Nat) : Nat → Text → Option (Nat × Text)
  | 0, s => some (n, s)
  | _ + 1, [] => none
  | width + 1, c :: s => do hexCode? (n * 16 + (← hexValue? c)) width s

end Roster.Text
