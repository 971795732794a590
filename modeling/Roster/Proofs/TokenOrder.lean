import Roster.Proofs.SourceTokens

/-! The order of tokens. The pieces of a line stand side by side from its first column on, and lines
follow one another, so every token ends in front of those behind it. -/
namespace Roster
open Text

/-- The columns that pieces take up side by side. -/
def Text.columns : List Text → Nat
  | [] => 0
  | piece :: pieces => piece.graphemeLength + columns pieces

namespace Segment

variable {line : Text} {lineNumber column : Nat} {pieces ls : List Text} {s : Segment}

/-- A piece stands behind the earlier pieces of its line. -/
theorem exists_of_mem_place (h : s ∈ place line lineNumber column pieces) :
    ∃ front after, pieces = front ++ s.text :: after ∧
      s.column = column + columns front ∧ s.line = line ∧
        s.lineNumber = lineNumber := by
  induction pieces generalizing column with
  | nil => cases h
  | cons piece pieces ih =>
    rcases List.mem_cons.1 h with rfl | h
    · exact ⟨[], pieces, rfl, rfl, rfl, rfl⟩
    · obtain ⟨front, after, rfl, hcolumn, hline, hnumber⟩ := ih h
      refine ⟨piece :: front, after, rfl, ?_, hline, hnumber⟩
      rw [hcolumn, columns, Nat.add_assoc]

theorem exists_of_mem_ofLines (h : s ∈ ofLines lineNumber ls) :
    ∃ front after, s.line.words = front ++ s.text :: after ∧
      s.column = 1 + columns front ∧ s.line ∈ ls ∧ lineNumber ≤ s.lineNumber := by
  induction ls generalizing lineNumber with
  | nil => cases h
  | cons line ls ih =>
    rcases List.mem_append.1 h with h | h
    · obtain ⟨front, after, hwords, hcolumn, hline, hnumber⟩ := exists_of_mem_place h
      rw [← hline] at hwords ⊢
      exact ⟨front, after, hwords, hcolumn, List.mem_cons_self, by omega⟩
    · obtain ⟨front, after, hwords, hcolumn, hline, hnumber⟩ := ih h
      exact ⟨front, after, hwords, hcolumn, List.mem_cons_of_mem _ hline, by omega⟩

/-- A segment ends in front of another: on an earlier line, or to the left on the same line. -/
def Before (s u : Segment) : Prop :=
  s.lineNumber < u.lineNumber ∨
    s.lineNumber = u.lineNumber ∧ s.column + s.text.graphemeLength ≤ u.column

theorem pairwise_place (line : Text) (lineNumber column : Nat) (pieces : List Text) :
    (place line lineNumber column pieces).Pairwise Before := by
  induction pieces generalizing column with
  | nil => exact .nil
  | cons piece pieces ih =>
    refine .cons (fun s hs => ?_) (ih _)
    obtain ⟨front, after, -, hcolumn, -, hnumber⟩ := exists_of_mem_place hs
    refine .inr ⟨hnumber.symm, ?_⟩
    rw [hcolumn]
    exact Nat.le_add_right _ _

theorem pairwise_ofLines (lineNumber : Nat) (ls : List Text) :
    (ofLines lineNumber ls).Pairwise Before := by
  induction ls generalizing lineNumber with
  | nil => exact .nil
  | cons line ls ih =>
    refine List.pairwise_append.2 ⟨pairwise_place line lineNumber 1 _, ih _, ?_⟩
    intro s hs u hu
    obtain ⟨_, _, -, -, -, hnumber⟩ := exists_of_mem_place hs
    obtain ⟨_, _, -, -, -, hle⟩ := exists_of_mem_ofLines hu
    exact .inl (by omega)

end Segment

theorem graphemeLength_classify_le (s : Text) :
    (classify s).text.graphemeLength ≤ s.graphemeLength := by
  unfold classify
  split
  · exact Nat.zero_le _
  · split
    · exact Nat.le_refl _
    · split <;> exact Nat.le_refl _

namespace Token

/-- A token ends in front of another: on an earlier line, or to the left on the same line. -/
def Before (t u : Token) : Prop :=
  t.lineNumber < u.lineNumber ∨
    t.lineNumber = u.lineNumber ∧ t.column + t.value.text.graphemeLength ≤ u.column

theorem before_ofSegment {s u : Segment} (h : s.Before u) : (ofSegment s).Before (ofSegment u) := by
  have hle := graphemeLength_classify_le s.text
  rcases h with h | ⟨hline, hcolumn⟩
  · exact .inl (Int.ofNat_lt.2 h)
  · refine .inr ⟨congrArg Int.ofNat hline, ?_⟩
    simp only [ofSegment]
    omega

/-- A token with a text does not end in front of itself. -/
theorem Before.ne {t u : Token} (h : t.Before u) (hne : t.value.text ≠ []) : t ≠ u := by
  rintro rfl
  have hpos : 0 < t.value.text.graphemeLength := List.length_pos_iff.2 (cut_ne_nil hne)
  rcases h with h | ⟨-, h⟩ <;> omega

end Token

theorem pairwise_tokens (source : Text) :
    ((segments source).map Token.ofSegment).Pairwise Token.Before :=
  (Segment.pairwise_ofLines 1 _).map _ fun _ _ => Token.before_ofSegment

end Roster
