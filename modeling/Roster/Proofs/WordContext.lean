import Roster.Proofs.WordBoundary

/-! Words in context. A character that joins nothing, beside a text or further off, does not change
how the text is cut; so the words of a text are found part by part wherever such characters
stand between the parts. -/
namespace Roster
namespace Text
open WordBreak

namespace WordBreak

/-- Classes that join nothing. -/
def isLone : WordBreak → Bool
  | .cr | .lf | .newline | .wSegSpace | .other => true
  | _ => false

theorem isLone_of_isLineEnd {b : WordBreak} (h : b.isLineEnd = true) : b.isLone = true := by
  revert h
  cases b <;> simp [isLineEnd, isLone]

theorem joins_of_isLone_left {before l r after : WordBreak} (h : l.isLone = true) :
    joins before l r after = false := by
  cases l <;> first | (cases h; done) |
    simp [joins, WordBreak.isLetter, isWordInner, isNumberInner, isConnected,
      Bool.beq_eq_decide_eq]

theorem joins_of_isLone_right {before l r after : WordBreak} (h : r.isLone = true) :
    joins before l r after = false := by
  cases r <;> first | (cases h; done) |
    simp [joins, WordBreak.isLetter, isWordInner, isNumberInner, isConnected,
      Bool.beq_eq_decide_eq]

theorem joins_of_isLone_before {before l r after : WordBreak} (h : before.isLone = true) :
    joins before l r after = joins .other l r after := by
  cases before <;> first | (cases h; done) | simp [joins, WordBreak.isLetter, Bool.beq_eq_decide_eq]

theorem joins_of_isLone_after {before l r after : WordBreak} (h : after.isLone = true) :
    joins before l r after = joins before l r .other := by
  cases after <;> first | (cases h; done) | simp [joins, WordBreak.isLetter, Bool.beq_eq_decide_eq]

theorem isAttached_of_isLone {b : WordBreak} (h : b.isLone = true) :
    b.isAttached = false ∧ b ≠ .regionalIndicator := by
  revert h
  cases b <;> simp [isLone, isAttached]

end WordBreak

theorem skipAttached_of_not_attached {c : Char} (h : (ofChar c).isAttached = false) (s : Text) :
    skipAttached (c :: s) = c :: s := by
  rw [skipAttached, List.dropWhile_cons_of_neg (by simp [h])]

/-- Nothing, or a text that begins with a character that joins nothing. -/
def LoneHead (t : Text) : Prop := ∀ c ∈ t.head?, (ofChar c).isLone = true

namespace LoneHead

variable {t : Text}

theorem isLone_ofHead (h : LoneHead t) : (ofHead t).isLone = true := by
  cases t with
  | nil => rfl
  | cons c t => exact h c rfl

theorem skipAttached_eq (h : LoneHead t) : skipAttached t = t := by
  cases t with
  | nil => rfl
  | cons c t => exact skipAttached_of_not_attached (isAttached_of_isLone (h c rfl)).1 t

theorem skipAttached_append (h : LoneHead t) (s : Text) :
    skipAttached (s ++ t) = skipAttached s ++ t := by
  induction s with
  | nil => exact h.skipAttached_eq
  | cons c s ih =>
    by_cases hc : (ofChar c).isAttached = true
    · simpa [skipAttached, hc] using ih
    · simp [skipAttached, hc]

theorem indicatorRun_append (h : LoneHead t) (s : Text) :
    indicatorRun (s ++ t) = indicatorRun s := by
  induction s with
  | nil =>
    cases t with
    | nil => rfl
    | cons c t =>
      obtain ⟨hattached, hri⟩ := isAttached_of_isLone (h c rfl)
      simp [indicatorRun, hattached, hri]
  | cons c s ih => simp [indicatorRun, ih]

/-- Looking past a text, the rule sees the same as if nothing were there. -/
theorem joins_before (h : LoneHead t) (s : Text) (l r after : WordBreak) :
    joins (ofHead (skipAttached (s ++ t))) l r after =
      joins (ofHead (skipAttached s)) l r after := by
  rw [h.skipAttached_append]
  cases skipAttached s with
  | nil => exact joins_of_isLone_before h.isLone_ofHead
  | cons c s => rfl

theorem joins_after (h : LoneHead t) (s : Text) (before l r : WordBreak) :
    joins before l r (ofHead (skipAttached (s ++ t))) =
      joins before l r (ofHead (skipAttached s)) := by
  rw [h.skipAttached_append]
  cases skipAttached s with
  | nil => exact joins_of_isLone_after h.isLone_ofHead
  | cons c s => rfl

end LoneHead

/-- The rule within a text, whatever joins nothing around it. -/
theorem wordRule_context {s before after : Text} (hs : s ≠ []) (hb : LoneHead before)
    (ha : LoneHead after) (n : Char) (t : Text) :
    wordRule (s ++ before) (n :: (t ++ after)) = wordRule s (n :: t) := by
  obtain ⟨p, s, rfl⟩ := List.exists_cons_of_ne_nil hs
  have hback := hb.skipAttached_append (p :: s)
  cases hq : skipAttached (p :: s) with
  | nil =>
    -- looking back passes the whole text; what is in front of it joins nothing
    have hnone : LoneHead [] := by simp [LoneHead]
    have hri : ofHead before ≠ .regionalIndicator := (isAttached_of_isLone hb.isLone_ofHead).2
    have hri' : ofHead [] ≠ .regionalIndicator := (isAttached_of_isLone hnone.isLone_ofHead).2
    simp only [hq, List.nil_append, List.cons_append] at hback ⊢
    simp only [wordRule, hback, hq, joins_of_isLone_left hb.isLone_ofHead,
      joins_of_isLone_left hnone.isLone_ofHead, hri, hri', false_and, if_false]
  | cons q u =>
    have hrun := hb.indicatorRun_append (q :: u)
    simp only [hq, List.cons_append] at hback hrun ⊢
    simp only [wordRule, hback, hq, ofHead_cons, List.tail_cons, hrun, hb.joins_before,
      ha.joins_after]

/-- A text that is cut off from what follows it has its own words. -/
theorem isCut_words {before s after : Text} (hb : LoneHead before) (ha : LoneHead after)
    (hend : s ≠ [] → wordRule (s.reverse ++ before) after = true) :
    IsCut wordRule before (words s) after := by
  refine (isCut_congr fun u v huv hu => ?_).2 (isCut_cut wordRule_nil [] s)
  rw [flatten_words] at huv
  rw [List.append_nil, List.append_nil]
  have hu' : u.reverse ≠ [] := by simpa using hu
  cases v with
  | nil =>
    rw [List.append_nil] at huv
    rw [List.nil_append, wordRule_nil, ← huv]
    exact hend (huv ▸ hu)
  | cons n v => exact wordRule_context hu' hb ha n v

/-- Parts of a text that are cut off from each other. -/
theorem words_append {u v : Text} {ps : List Text} (hps : ps.flatten = v)
    (hv : LoneHead v) (hu : u ≠ [] → wordRule u.reverse v = true)
    (hcut : IsCut wordRule u.reverse ps []) : words (u ++ v) = words u ++ ps := by
  have hnone : LoneHead [] := by simp [LoneHead]
  have hword : IsCut wordRule [] (words u) v := isCut_words hnone hv (by simpa using hu)
  have hboth : IsCut wordRule [] (words u ++ ps) [] := by
    rw [isCut_append, hps, flatten_words, List.append_nil, List.append_nil]
    exact ⟨hword, hcut⟩
  have heq := hboth.eq_cut
  rw [List.flatten_append, flatten_words, hps] at heq
  exact heq

end Text
end Roster
