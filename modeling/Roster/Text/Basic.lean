/-! Text as a list of characters: trimming, splitting, decimal numerals, words for a list of items. -/
namespace Roster

abbrev Text := List Char

namespace Text

def trimEnd (blank : Char → Bool) (s : Text) : Text := (s.reverse.dropWhile blank).reverse

def trim (blank : Char → Bool) (s : Text) : Text := trimEnd blank (s.dropWhile blank)

def ofNat (n : Nat) : Text := Nat.toDigits 10 n

def ofInt : Int → Text
  | .ofNat n => ofNat n
  | .negSucc n => '-' :: ofNat (n + 1)

/-- Pieces between separators; there is always at least one. -/
def splitAt (separator : Char) : Text → List Text
  | [] => [[]]
  | c :: s =>
    match splitAt separator s with
    | [] => [[c]]
    | piece :: pieces =>
      if c = separator then [] :: piece :: pieces else (c :: piece) :: pieces

def utf8Size : Text → Nat
  | [] => 0
  | c :: s => c.utf8Size + utf8Size s

/-- Items as a sentence lists them: `a`, `a and b`, `a, b, and c`. -/
def enumerate (separator linker : Text) : List Text → Text
  | [] => []
  | [item] => item
  | [first, last] => first ++ ' ' :: linker ++ ' ' :: last
  | items => separator.intercalate items.dropLast ++ ',' :: ' ' :: linker ++
      ' ' :: items.getLastD []

/-- Items joined by commas and `and`. -/
def enumerateAnd : List Text → Text := enumerate ", ".toList "and".toList

/-- Items joined by commas and `or`. -/
def enumerateOr : List Text → Text := enumerate ", ".toList "or".toList

end Text
end Roster
