import Roster.Proofs.ParseOutcome
import Roster.Proofs.SourceJoining
import Roster.Session

/-! An interactive session and the source of all its lines. A session answers the inputs that its
lines complete, one after another; when all of them give operations, the lines together are a
source of the same operations. -/
namespace Roster
open Text

namespace Session

variable {pending lines sources left : List Text} {line : Text}

/-- What becomes of a line: it is passed over, it completes an input, or the input goes on. -/
theorem feed_cases (pending : List Text) (line : Text) :
    (pending = [] ∧ (∀ c ∈ line, isMargin c = true) ∧ feed pending line = ([], none)) ∨
      (isComplete (joined (pending ++ [line])) = true ∧
        feed pending line = ([], some (joined (pending ++ [line])))) ∨
      feed pending line = (pending ++ [line], none) := by
  simp only [feed]
  split
  next h =>
    simp only [Bool.and_eq_true, List.isEmpty_iff, List.all_eq_true] at h
    exact .inl ⟨h.1, h.2, rfl⟩
  next =>
    split
    next h => exact .inr (.inl ⟨h, rfl⟩)
    next => exact .inr (.inr rfl)

theorem joined_singleton (line : Text) : joined [line] = line := List.intercalate_singleton

theorem joined_cons {line : Text} {lines : List Text} (h : lines ≠ []) :
    joined (line :: lines) = line ++ '\n' :: joined lines := by
  cases lines with
  | nil => exact absurd rfl h
  | cons next lines => simp [joined, List.intercalate_cons_cons]

theorem joined_append {lines lines' : List Text} (h : lines ≠ []) (h' : lines' ≠ []) :
    joined (lines ++ lines') = joined lines ++ '\n' :: joined lines' := by
  induction lines with
  | nil => exact absurd rfl h
  | cons line lines ih =>
    by_cases hnil : lines = []
    · subst hnil
      rw [List.singleton_append, joined_cons h', joined_singleton]
    · rw [List.cons_append, joined_cons (by simp [hnil]), joined_cons hnil, ih hnil]
      simp

theorem mem_joined {lines : List Text} {c : Char} (h : c ∈ joined lines) :
    c = '\n' ∨ ∃ line ∈ lines, c ∈ line := by
  induction lines with
  | nil => cases h
  | cons line lines ih =>
    by_cases hnil : lines = []
    · subst hnil
      rw [joined_singleton] at h
      exact .inr ⟨line, by simp, h⟩
    · rw [joined_cons hnil, List.mem_append, List.mem_cons] at h
      rcases h with h | rfl | h
      · exact .inr ⟨line, by simp, h⟩
      · exact .inl rfl
      · rcases ih h with rfl | ⟨l, hl, hc⟩
        · exact .inl rfl
        · exact .inr ⟨l, by simp [hl], hc⟩

/-- No narrow no-break space, which holds on to letters, and no information separator, which a
session passes over although it is no blank. -/
def PlainLine (line : Text) : Prop :=
  ∀ c ∈ line, c ≠ '\u202F' ∧ ¬(0x1C ≤ c.toNat ∧ c.toNat ≤ 0x1F)

instance (line : Text) : Decidable (PlainLine line) :=
  decidable_of_iff
    (line.all (fun c => decide (c ≠ '\u202F' ∧ ¬(0x1C ≤ c.toNat ∧ c.toNat ≤ 0x1F))) = true)
    (by simp only [PlainLine, List.all_eq_true, decide_eq_true_eq])

theorem PlainLine.isBlank_of_isMargin {c : Char} (h : PlainLine line) (hc : c ∈ line)
    (hm : isMargin c = true) : isBlank c = true := by
  have hseparator := (h c hc).2
  simpa [isMargin, hseparator] using hm

theorem parseSource_of_blank {source : Text} (h : ∀ c ∈ source, isBlank c = true) :
    parseSource source = .ok [] := by
  rw [parseSource_eq_ok_iff, sourceValues, trim_eq_nil_iff.2 h]
  exact .blank Grammar.gap_nil

theorem parseSource_joined_append {lines lines' : List Text} {ops ops' : List Operation}
    (h : parseSource (joined lines) = .ok ops) (h' : parseSource (joined lines') = .ok ops')
    (hplain : ∀ line ∈ lines ++ lines', PlainLine line) :
    parseSource (joined (lines ++ lines')) = .ok (ops ++ ops') := by
  have hnone : parseSource (joined []) = .ok [] := parseSource_of_blank (by simp [joined])
  by_cases hl : lines = []
  · subst hl
    obtain rfl : [] = ops := Except.ok.inj (hnone.symm.trans h)
    exact h'
  by_cases hl' : lines' = []
  · subst hl'
    obtain rfl : [] = ops' := Except.ok.inj (hnone.symm.trans h')
    rwa [List.append_nil, List.append_nil]
  · have hjoined := joined_append hl hl'
    rw [hjoined]
    apply parseSource_append_line h h'
    rw [← hjoined]
    intro hmem
    rcases mem_joined hmem with heq | ⟨line, hline, hc⟩
    · exact absurd heq (by decide)
    · exact (hplain line hline _ hc).1 rfl

/-- With lines already pending, which belong to the first input. -/
theorem parseSource_joined_pending {opss : List (List Operation)}
    (hplain : ∀ line ∈ pending ++ lines, PlainLine line)
    (hrun : submissions pending lines = (sources, []))
    (hread : sources.mapM parseSource = .ok opss) :
    parseSource (joined (pending ++ lines)) = .ok opss.flatten := by
  induction lines generalizing pending sources opss with
  | nil =>
    obtain ⟨rfl, rfl⟩ : sources = [] ∧ pending = [] := by simpa [submissions, eq_comm] using hrun
    obtain rfl : [] = opss := Except.ok.inj hread
    exact parseSource_of_blank (by simp [joined])
  | cons line lines ih =>
    rw [submissions] at hrun
    rcases feed_cases pending line with ⟨rfl, hblank, hfeed⟩ | ⟨-, hfeed⟩ | hfeed
    · -- a line that is passed over is blank
      simp only [hfeed, Option.toList_none, List.nil_append, Prod.mk.injEq] at hrun
      rw [List.nil_append, List.forall_mem_cons] at hplain
      have hline : parseSource (joined [line]) = .ok [] := by
        rw [joined_singleton]
        exact parseSource_of_blank fun c hc => hplain.1.isBlank_of_isMargin hc (hblank c hc)
      have hrest : parseSource (joined ([] ++ lines)) = .ok opss.flatten :=
        ih hplain.2 (Prod.ext hrun.1 hrun.2) hread
      exact parseSource_joined_append hline hrest (List.forall_mem_cons.2 hplain)
    · -- the pending lines and this one are an input, and the rest is a session of its own
      simp only [hfeed, Option.toList_some, List.singleton_append, Prod.mk.injEq] at hrun
      obtain ⟨rfl, hleft⟩ := hrun
      rw [List.mapM_cons] at hread
      obtain ⟨ops, hops, hread⟩ := Except.bind_eq_ok.1 hread
      obtain ⟨opss', hopss, hread⟩ := Except.bind_eq_ok.1 hread
      obtain rfl := Except.ok.inj hread
      rw [List.append_cons] at hplain ⊢
      have hrest : parseSource (joined ([] ++ lines)) = .ok opss'.flatten :=
        ih (fun l hl => hplain l (List.mem_append_right _ hl)) (Prod.ext rfl hleft) hopss
      exact parseSource_joined_append hops hrest hplain
    · simp only [hfeed, Option.toList_none, List.nil_append, Prod.mk.injEq] at hrun
      rw [List.append_cons] at hplain ⊢
      exact ih hplain (Prod.ext hrun.1 hrun.2) hread

/-- When all inputs of a session give operations and no line is left over, its lines together give
the operations of all inputs. -/
theorem parseSource_joined {opss : List (List Operation)} (hplain : ∀ line ∈ lines, PlainLine line)
    (hrun : submissions [] lines = (sources, [])) (hread : sources.mapM parseSource = .ok opss) :
    parseSource (joined lines) = .ok opss.flatten := by
  have hpending : ∀ line ∈ [] ++ lines, PlainLine line := by simpa using hplain
  have hsource := parseSource_joined_pending hpending hrun hread
  rwa [List.nil_append] at hsource

theorem parseSource_joined_brokenName :
    let lines := ["Show Ann".toList, "Lee.".toList, " ".toList, "Show Ann".toList, "Lee.".toList]
    let sources := ["Show Ann\nLee.".toList, "Show Ann\nLee.".toList]
    let op := Operation.display ["Ann Lee".toList] .plain
    (∀ line ∈ lines, PlainLine line) ∧ submissions [] lines = (sources, []) ∧
      sources.mapM parseSource = .ok [[op], [op]] ∧ parseSource (joined lines) = .ok [op, op] := by
  intro lines sources op
  have hplain : ∀ line ∈ lines, PlainLine line := by decide
  have hrun : submissions [] lines = (sources, []) := by decide +kernel
  have hread : sources.mapM parseSource = .ok [[op], [op]] := by
    simp only [sources, List.mapM_cons, parseSource_brokenName, List.mapM_nil]
    rfl
  exact ⟨hplain, hrun, hread, parseSource_joined hplain hrun hread⟩

end Session
end Roster
