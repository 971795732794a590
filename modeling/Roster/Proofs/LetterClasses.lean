import Roster.Text.Blank
import Roster.Text.Letter
import Roster.Text.WordBreak.Property

/-! The word-break classes of letters. The tables of both properties are compared range by range:
a letter joins its neighbours as a letter or not at all, but for two halfwidth marks. -/
namespace Roster.Text

namespace CodeRanges

/-- Whether the ranges keep off the entries of a table that `bad` singles out. -/
def avoids {α : Type} (bad : Nat × Nat × α → Bool) : CodeRanges → CodeTable α → Bool
  | _, [] => true
  | ranges, entry :: table =>
    let later : CodeRanges := ranges.dropWhile fun r => r.2 < entry.1
    (!bad entry || later.head?.all fun r => entry.2.1 < r.1) && avoids bad later table

theorem contains_dropWhile {ranges : CodeRanges} {n first : Nat} (hn : first ≤ n)
    (h : ranges.contains n = true) :
    CodeRanges.contains (ranges.dropWhile fun r => r.2 < first) n = true := by
  induction ranges with
  | nil => exact h
  | cons r ranges ih =>
    obtain ⟨lo, hi⟩ := r
    by_cases hhi : hi < first
    · rw [List.dropWhile_cons_of_pos (by simpa using hhi)]
      apply ih
      have hlo : ¬n < lo := by
        intro hlt
        simp [CodeRanges.contains, hlt] at h
      simpa [CodeRanges.contains, hlo, Nat.not_le.2 (Nat.lt_of_lt_of_le hhi hn)] using h
    · rw [List.dropWhile_cons_of_neg (by simpa using hhi)]
      exact h

theorem head_le_of_contains {ranges : CodeRanges} {n : Nat} (h : ranges.contains n = true) :
    ∃ r ∈ ranges.head?, r.1 ≤ n := by
  rcases ranges with _ | ⟨⟨lo, hi⟩, ranges⟩
  · cases h
  · refine ⟨(lo, hi), rfl, Nat.le_of_not_lt fun hlt => ?_⟩
    simp [CodeRanges.contains, hlt] at h

/-- A code of the ranges has no bad entry. -/
theorem avoids_sound {α : Type} {bad : Nat × Nat × α → Bool} {ranges : CodeRanges}
    {table : CodeTable α} (h : avoids bad ranges table = true) {n : Nat} {a : α}
    (hn : ranges.contains n = true) (ha : table.find? n = some a) :
    ∃ first last, first ≤ n ∧ n ≤ last ∧ bad (first, last, a) = false := by
  induction table generalizing ranges with
  | nil => cases ha
  | cons entry table ih =>
    obtain ⟨first, last, b⟩ := entry
    simp only [avoids, Bool.and_eq_true, Bool.or_eq_true] at h
    rw [CodeTable.find?] at ha
    split at ha
    next => cases ha
    next hfirst =>
      have hlater := contains_dropWhile (Nat.le_of_not_lt hfirst) hn
      split at ha
      next hlast =>
        obtain rfl := Option.some.inj ha
        rcases h.1 with hbad | hhead
        · exact ⟨first, last, Nat.le_of_not_lt hfirst, hlast, by simpa using hbad⟩
        · obtain ⟨r, hr, hle⟩ := head_le_of_contains hlater
          rw [Option.mem_def.1 hr] at hhead
          have : last < r.1 := by simpa using hhead
          omega
      next => exact ih h.2 hlater ha

end CodeRanges

namespace WordBreak

/-- Classes of characters that begin a word, or join a word of their class. -/
def isFree : WordBreak → Bool
  | .other | .aLetter | .hebrewLetter | .katakana => true
  | _ => false

/-- The halfwidth voiced sound marks are letters that belong to the character before them. -/
def isMisplaced (entry : Nat × Nat × WordBreak) : Bool :=
  !entry.2.2.isFree && entry != (0xFF9E, 0xFF9F, .extend)

theorem letters_avoid_basicTable :
    CodeRanges.avoids isMisplaced letterRanges basicTable = true := by decide +kernel

theorem letters_avoid_supplementaryTable :
    CodeRanges.avoids isMisplaced letterRanges supplementaryTable = true := by decide +kernel

theorem ofChar_of_isLetter {c : Char} (h : Text.isLetter c = true) :
    (ofChar c).isFree = true ∨ ofChar c = .extend := by
  have entry : ∀ {table : CodeTable WordBreak},
      CodeRanges.avoids isMisplaced letterRanges table = true →
      ((table.find? c.toNat).getD .other).isFree = true ∨
        (table.find? c.toNat).getD .other = .extend := by
    intro table htable
    cases hfind : table.find? c.toNat with
    | none => exact .inl rfl
    | some a =>
      obtain ⟨first, last, -, -, hok⟩ := CodeRanges.avoids_sound htable h hfind
      by_cases hfree : a.isFree = true
      · exact .inl hfree
      · simp only [isMisplaced, hfree, Bool.not_false, Bool.true_and, bne_eq_false_iff_eq,
          Prod.mk.injEq] at hok
        exact .inr hok.2.2
  rw [ofChar]
  split
  · exact entry letters_avoid_basicTable
  · exact entry letters_avoid_supplementaryTable

theorem isFree_of_isLetter {c : Char} (h : Text.isLetter c = true) (he : ofChar c ≠ .extend) :
    (ofChar c).isFree = true := (ofChar_of_isLetter h).resolve_right he

end WordBreak

/-- What is checked of the listed codes holds of every blank. -/
theorem forall_isBlank {P : Char → Prop} (h : ∀ n ∈ blankCodes, P (Char.ofNat n)) {c : Char}
    (hc : isBlank c = true) : P c := by
  have hcode := h c.toNat (List.contains_iff_mem.1 hc)
  rwa [Char.ofNat_toNat] at hcode

theorem isLetter_of_isBlank {c : Char} (h : isBlank c = true) : isLetter c = false :=
  forall_isBlank (P := fun c => isLetter c = false) (by decide +kernel) h

end Roster.Text
