import Roster.Vocabulary

/-! Statements: a keyword and the tokens after it, up to and including the first terminator. -/
namespace Roster

/-- Tokens up to and including the first terminator, and the tokens after it. -/
def cutStatement : List Token → List Token × List Token
  | [] => ([], [])
  | t :: ts =>
    if t.isTerminator then ([t], ts)
    else
      let after := cutStatement ts
      (t :: after.1, after.2)

@[simp] theorem cutStatement_append (ts : List Token) :
    (cutStatement ts).1 ++ (cutStatement ts).2 = ts := by
  induction ts with
  | nil => rfl
  | cons t ts ih => rw [cutStatement]; split <;> simp [ih]

theorem cutStatement_rest_le (ts : List Token) : (cutStatement ts).2.length ≤ ts.length := by
  have h := congrArg List.length (cutStatement_append ts)
  simp only [List.length_append] at h
  omega

theorem cutStatement_rest_lt (t : Token) (ts : List Token) :
    (cutStatement (t :: ts)).2.length < (t :: ts).length := by
  rw [cutStatement]
  split
  · simp
  · have h := cutStatement_rest_le ts
    simp only [List.length_cons]
    omega

/-- All tokens in slices that end at a terminator. -/
def slices : List Token → List (List Token)
  | [] => []
  | t :: ts => (cutStatement (t :: ts)).1 :: slices (cutStatement (t :: ts)).2
termination_by ts => ts.length
decreasing_by exact cutStatement_rest_lt t ts

structure Statement where
  keyword : Keyword
  start : Token
  body : List Token
  deriving DecidableEq, Repr

namespace Statement

/-- The statements at the front of a token list, and the token that stops them, if it is one that
begins no statement. -/
def split : List Token → List Statement × Option Token
  | [] => ([], none)
  | t :: ts =>
    if t.isBlank then split ts
    else
      match Keyword.ofValue? t.value with
      | none => ([], some t)
      | some k =>
        let after := split (cutStatement ts).2
        (⟨k, t, (cutStatement ts).1⟩ :: after.1, after.2)
termination_by ts => ts.length
decreasing_by
  · simp
  · have h := cutStatement_rest_le ts
    simp only [List.length_cons]
    omega

end Statement
end Roster
