import Roster.Text.Blank
import Roster.Text.Emoji.Flag
import Roster.Text.Emoji.Sequence
import Roster.Text.Emoji.Symbol
import Roster.Text.Literal

/-! Emoji written by their short names between colons, such as `:smile:`. A name may end in `-text`
or `-emoji`, which asks for that presentation. -/
namespace Roster.Text

namespace Emoji

def ofCodes (codes : List Nat) : Text := codes.map Char.ofNat

/-- The flag of a region by its two letters. -/
def flag (letters : String) : Text :=
  ofCodes (letters.toList.map fun c => c.toNat - 'A'.toNat + 0x1F1E6)

def presentation : Char := Char.ofNat 0xFE0F

/-- Names of skin tones as they follow another name, with the modifier of each. -/
def tones : List (Text × Char) :=
  [("_light_skin_tone", 0x1F3FB), ("_medium-light_skin_tone", 0x1F3FC),
    ("_medium_skin_tone", 0x1F3FD), ("_medium-dark_skin_tone", 0x1F3FE),
    ("_dark_skin_tone", 0x1F3FF)].map fun (name, code) => (name.toList, Char.ofNat code)

/-- The modifier stands behind the first character, in place of a presentation mark. -/
def withTone (tone : Char) : Text → Text
  | [] => []
  | c :: s => c :: tone :: if s.head? = some presentation then s.tail else s

def lookup? {α : Type} (name : Text) (table : List (String × α)) : Option α :=
  (table.find? fun entry => entry.1.toList == name).map Prod.snd

def symbol? (name : Text) : Option Text :=
  (symbols.find? fun entry => entry.2.any fun n => n.toList == name).map fun entry =>
    ofCodes [entry.1]

def flag? (name : Text) : Option Text :=
  ((lookup? name regions).or
    ((lookup? name furtherFlags).or
      ((after? "flag_for_".toList name).bind fun region => lookup? region regions))).map flag

/-- The emoji of a name without a skin tone. -/
def untoned? (name : Text) : Option Text :=
  (symbol? name).or ((flag? name).or ((lookup? name sequences).map ofCodes))

/-- What stands in front of an ending, if the text has it. -/
def before? (ending s : Text) : Option Text := (after? ending.reverse s.reverse).map List.reverse

def toned? (name : Text) : Option Text :=
  tones.findSome? fun (toneName, tone) => do
    let base ← before? toneName name
    if tonedNames.any fun n => n.toList == base then (untoned? base).map (withTone tone) else none

/-- Lower case for the letters that occur in names. The signs of kelvin and ångström are letters
too. -/
def lowerChar (c : Char) : Char :=
  if 'A' ≤ c ∧ c ≤ 'Z' then Char.ofNat (c.toNat + 32)
  else if 0xC0 ≤ c.toNat ∧ c.toNat ≤ 0xDE ∧ c.toNat ≠ 0xD7 then Char.ofNat (c.toNat + 32)
  else if c.toNat = 0x212A then 'k'
  else if c.toNat = 0x212B then 'å'
  else c

/-- The emoji of a name, in letters of either case. -/
def named? (name : Text) : Option Text :=
  (untoned? (name.map lowerChar)).or (toned? (name.map lowerChar))

/-- The emoji of what stands between two colons. -/
def ofShortcode? (code : Text) : Option Text :=
  match before? "-text".toList code, before? "-emoji".toList code with
  | some name, _ => (named? name).map (· ++ [Char.ofNat 0xFE0E])
  | none, some name => (named? name).map (· ++ [presentation])
  | none, none => named? code

end Emoji

/-- Whether a character can stand between the colons. -/
def isInShortcode (c : Char) : Bool := c ≠ ':' && !isMargin c

/-- Emoji in place of their short names. Two colons with no blank between them belong together, also
around a name that is unknown. -/
def replaceEmoji : Text → Text
  | [] => []
  | c :: s =>
    if c = ':' then
      match _h : s.dropWhile isInShortcode with
      | ':' :: r =>
        let code := s.takeWhile isInShortcode
        (Emoji.ofShortcode? code).getD (':' :: code ++ [':']) ++ replaceEmoji r
      | _ => c :: replaceEmoji s
    else c :: replaceEmoji s
termination_by s => s.length
decreasing_by
  · have hle := (List.dropWhile_sublist (l := s) isInShortcode).length_le
    simp only [_h, List.length_cons] at hle ⊢
    omega
  all_goals exact Nat.lt_succ_self _

end Roster.Text
