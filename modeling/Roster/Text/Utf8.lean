import Roster.Text.Basic

/-! Reading UTF-8. Octets are natural numbers; overlong forms, surrogates and code points past the
last plane are refused. -/
namespace Roster.Text

def continuation? (b : Nat) : Option Nat :=
  if 0x80 ≤ b ∧ b < 0xC0 then some (b - 0x80) else none

/-- The character with code `n`, if `n` is a scalar value and at least `least`. -/
def scalar? (least n : Nat) : Option Char :=
  if least ≤ n ∧ n.isValidChar then some (Char.ofNat n) else none

def decodeUtf8 : List Nat → Option Text
  | [] => some []
  | a :: rest =>
    if a < 0x80 then return Char.ofNat a :: (← decodeUtf8 rest)
    else if a < 0xC0 then none
    else if a < 0xE0 then
      match rest with
      | b :: rest => do
        let c ← scalar? 0x80 ((a - 0xC0) * 0x40 + (← continuation? b))
        return c :: (← decodeUtf8 rest)
      | _ => none
    else if a < 0xF0 then
      match rest with
      | b :: d :: rest => do
        let c ← scalar? 0x800
          (((a - 0xE0) * 0x40 + (← continuation? b)) * 0x40 + (← continuation? d))
        return c :: (← decodeUtf8 rest)
      | _ => none
    else if a < 0xF8 then
      match rest with
      | b :: d :: e :: rest => do
        let c ← scalar? 0x10000
          ((((a - 0xF0) * 0x40 + (← continuation? b)) * 0x40 + (← continuation? d)) * 0x40
            + (← continuation? e))
        return c :: (← decodeUtf8 rest)
      | _ => none
    else none

/-- Line ends `\r\n` and `\r` read as `\n`. -/
def unifyLineEnds : Text → Text
  | [] => []
  | '\r' :: '\n' :: s => '\n' :: unifyLineEnds s
  | c :: s => (if c = '\r' then '\n' else c) :: unifyLineEnds s

end Roster.Text
