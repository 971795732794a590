import Roster.Proofs.SegmentLayout
import Roster.Session

/-! The lines of a session as they come. A terminal hands over its input a line feed at a time, with
line ends of any kind inside; a session takes the same lines from these reads as from the whole
input. -/
namespace Roster
open Text

namespace Text

theorem cut_lineRule (before before' s : Text) :
    cut lineRule before s = cut lineRule before' s := by
  induction s generalizing before before' with
  | nil => rfl
  | cons c s ih =>
    rw [cut, cut, ih (c :: before) (c :: before')]
    rfl

/-- What follows a line feed is cut into lines on its own. -/
theorem lines_append (w v : Text) :
    lines (w ++ '\n' :: v) = lines (w ++ ['\n']) ++ lines v := by
  have hflat : (lines (w ++ ['\n'])).flatten = w ++ ['\n'] := flatten_cut ..
  have hcut : IsCut lineRule [] (lines (w ++ ['\n'])) v := by
    refine (isCut_congr fun front rest heq _ => ?_).1 (isCut_lines (w ++ ['\n']))
    rw [hflat] at heq
    cases rest with
    | nil =>
      rw [List.append_nil] at heq
      simp [← heq, CutRule.orEnd, lineRule]
    | cons c rest => simp [CutRule.orEnd, lineRule]
  have hlines := hcut.cut_eq
  rw [hflat, List.append_assoc, cut_lineRule _ [] v] at hlines
  exact hlines

/-- Line ends in front of a line feed and behind it do not run together. -/
theorem exists_unifyLineEnds_append (u : Text) :
    ∃ w, ∀ v, unifyLineEnds (u ++ '\n' :: v) = w ++ '\n' :: unifyLineEnds v := by
  induction u using unifyLineEnds.induct with
  | case1 => exact ⟨[], fun v => by simp [unifyLineEnds]⟩
  | case2 u ih =>
    obtain ⟨w, hw⟩ := ih
    exact ⟨'\n' :: w, fun v => by simp [unifyLineEnds, hw]⟩
  | case3 c u hpair ih =>
    obtain ⟨w, hw⟩ := ih
    -- a carriage return that ends `u` makes one line end with the line feed behind it
    by_cases hc : c = '\r' ∧ u = []
    · obtain ⟨rfl, rfl⟩ := hc
      exact ⟨[], fun v => by simp [unifyLineEnds]⟩
    · refine ⟨(if c = '\r' then '\n' else c) :: w, fun v => ?_⟩
      rw [List.cons_append, unifyLineEnds, hw, List.cons_append]
      intro s hreturn heq
      cases u with
      | nil => exact hc ⟨hreturn, rfl⟩
      | cons d u => exact hpair u hreturn (by rw [(List.cons.inj heq).1])

end Text

namespace Session

theorem inputLines_append (w v : Text) :
    inputLines (w ++ '\n' :: v) = inputLines (w ++ ['\n']) ++ inputLines v := by
  rw [inputLines, lines_append, List.map_append, inputLines, inputLines]

/-- Reads that end in line feeds, the last one apart, hold the lines that they make up together. -/
theorem inputLines_flatten {reads : List Text}
    (h : ∀ read ∈ reads.dropLast, read.getLast? = some '\n') :
    inputLines (unifyLineEnds reads.flatten) =
      reads.flatMap fun read => inputLines (unifyLineEnds read) := by
  induction reads with
  | nil => rfl
  | cons read reads ih =>
    cases reads with
    | nil => simp
    | cons next reads =>
      rw [List.dropLast_cons_cons, List.forall_mem_cons] at h
      obtain ⟨init, rfl⟩ := List.getLast?_eq_some_iff.1 h.1
      obtain ⟨w, hw⟩ := exists_unifyLineEnds_append init
      have hread : unifyLineEnds (init ++ ['\n']) = w ++ ['\n'] := hw []
      rw [List.flatMap_cons, ← ih h.2, hread, ← inputLines_append, ← hw, List.flatten_cons,
        List.append_assoc, List.singleton_append]

/-- The lines of an input are those of its reads, one after another. -/
theorem inputLines_unifyLineEnds (input : Text) :
    inputLines (unifyLineEnds input) =
      input.lines.flatMap fun read => inputLines (unifyLineEnds read) := by
  have hreads := areLines_lines input
  rw [← inputLines_flatten hreads.ended, hreads.flatten]

end Session

end Roster
