import Roster.Proofs.SessionAnswer

/-! The lines of a session, divided into the inputs that it answers. A line is passed over, or
belongs to exactly one input, or is left over when the lines end; there is one such division, and a
session writes its parts one after another. -/
namespace Roster.Session
open Text

def IsBlankLine (line : Text) : Prop := ∀ c ∈ line, isMargin c = true

/-- Lines of an input that has begun and is not complete, or none. -/
structure IsOpen (lines : List Text) : Prop where
  head : ∀ line ∈ lines.head?, ¬IsBlankLine line
  incomplete : ∀ first, first <+: lines → first ≠ [] → isComplete (joined first) = false

/-- Lines of an input that its last line completes. -/
structure IsInput (lines : List Text) : Prop where
  head : ∃ line ∈ lines.head?, ¬IsBlankLine line
  complete : isComplete (joined lines) = true
  least : ∀ first, first <+: lines → first ≠ [] → first ≠ lines →
    isComplete (joined first) = false

/-- A part of a session: a line that is passed over, or the lines of an input. -/
inductive Part where
  | skipped (line : Text)
  | input (lines : List Text)
  deriving DecidableEq, Repr

namespace Part

def lines : Part → List Text
  | skipped line => [line]
  | input lines => lines

def source? : Part → Option Text
  | skipped _ => none
  | input lines => some (joined lines)

def Sound : Part → Prop
  | skipped line => IsBlankLine line
  | input lines => IsInput lines

end Part

variable {pending lines rest : List Text} {line : Text}

/-- All lines in order: those of the parts, and those of an input that is never complete. -/
structure Division (lines : List Text) (parts : List Part) (rest : List Text) : Prop where
  lines_eq : lines = parts.flatMap Part.lines ++ rest
  sound : ∀ part ∈ parts, part.Sound
  isOpen : IsOpen rest

theorem isOpen_nil : IsOpen [] := by
  refine ⟨by simp, fun first hfirst hne => absurd (List.prefix_nil.1 hfirst) hne⟩

/-- An open input goes on with a line that does not complete it. -/
theorem IsOpen.snoc (h : IsOpen pending) (hline : pending = [] → ¬IsBlankLine line)
    (hcomplete : isComplete (joined (pending ++ [line])) = false) : IsOpen (pending ++ [line]) := by
  constructor
  · cases pending with
    | nil => simpa using hline rfl
    | cons first pending => simpa using h.head first (by simp)
  · intro first hfirst hne
    rcases List.prefix_concat_iff.1 hfirst with rfl | hfirst
    · exact hcomplete
    · exact h.incomplete first hfirst hne

/-- An open input is complete with the first line that completes it. -/
theorem IsOpen.input (h : IsOpen pending) (hline : pending = [] → ¬IsBlankLine line)
    (hcomplete : isComplete (joined (pending ++ [line])) = true) : IsInput (pending ++ [line]) := by
  refine ⟨?_, hcomplete, ?_⟩
  · cases pending with
    | nil => exact ⟨line, by simp, hline rfl⟩
    | cons first pending => exact ⟨first, by simp, h.head first (by simp)⟩
  · intro first hfirst hne hproper
    rcases List.prefix_concat_iff.1 hfirst with rfl | hfirst
    · exact absurd rfl hproper
    · exact h.incomplete first hfirst hne

/-- What stands in front of the line that completes an input. -/
theorem IsInput.exists_snoc (h : IsInput lines) :
    ∃ first last, lines = first ++ [last] ∧ IsOpen first ∧ (first = [] → ¬IsBlankLine last) := by
  obtain ⟨head, hhead, hblank⟩ := h.head
  have hne : lines ≠ [] := by
    rintro rfl
    simp at hhead
  obtain ⟨first, last, rfl⟩ : ∃ first last, lines = first ++ [last] :=
    ⟨_, _, (List.dropLast_append_getLast hne).symm⟩
  refine ⟨first, last, rfl, ⟨?_, ?_⟩, ?_⟩
  · intro line hline
    cases first with
    | nil => simp at hline
    | cons l first =>
      obtain rfl : l = head := by simpa using hhead
      obtain rfl : l = line := by simpa using hline
      exact hblank
  · intro pre hpre hpne
    refine h.least pre (hpre.trans (List.prefix_append first [last])) hpne ?_
    rintro rfl
    have hle := hpre.length_le
    rw [List.length_append, List.length_singleton] at hle
    omega
  · rintro rfl
    obtain rfl : last = head := by simpa using hhead
    exact hblank

/-- The parts of the lines that go on with an open input, and what is left over. -/
def divide (pending : List Text) : List Text → List Part × List Text
  | [] => ([], pending)
  | line :: lines =>
    if pending.isEmpty && line.all isMargin then
      (.skipped line :: (divide [] lines).1, (divide [] lines).2)
    else if isComplete (joined (pending ++ [line])) then
      (.input (pending ++ [line]) :: (divide [] lines).1, (divide [] lines).2)
    else divide (pending ++ [line]) lines

theorem Division.cons (part : Part) {parts : List Part} (hpart : part.Sound)
    (h : Division lines parts rest) : Division (part.lines ++ lines) (part :: parts) rest := by
  refine ⟨?_, List.forall_mem_cons.2 ⟨hpart, h.sound⟩, h.isOpen⟩
  rw [List.flatMap_cons, List.append_assoc, ← h.lines_eq]

/-- What becomes of a line. It is passed over, or completes the input, or leaves it open. -/
theorem divide_cases (pending : List Text) (line : Text) :
    (pending = [] ∧ IsBlankLine line ∧ feed pending line = ([], none) ∧
      ∀ lines, divide pending (line :: lines) =
        (.skipped line :: (divide [] lines).1, (divide [] lines).2)) ∨
    (pending = [] → ¬IsBlankLine line) ∧
      (isComplete (joined (pending ++ [line])) = true ∧
          feed pending line = ([], some (joined (pending ++ [line]))) ∧
          (∀ lines, divide pending (line :: lines) =
            (.input (pending ++ [line]) :: (divide [] lines).1, (divide [] lines).2)) ∨
        isComplete (joined (pending ++ [line])) = false ∧
          feed pending line = (pending ++ [line], none) ∧
          ∀ lines, divide pending (line :: lines) = divide (pending ++ [line]) lines) := by
  have passes_iff : (pending.isEmpty && line.all isMargin) = true ↔
      pending = [] ∧ IsBlankLine line := by simp [IsBlankLine]
  by_cases hpass : (pending.isEmpty && line.all isMargin) = true
  · obtain ⟨hnil, hblank⟩ := passes_iff.1 hpass
    exact .inl ⟨hnil, hblank, by rw [feed, if_pos hpass], fun _ => by rw [divide, if_pos hpass]⟩
  · refine .inr ⟨fun hnil hblank => hpass (passes_iff.2 ⟨hnil, hblank⟩), ?_⟩
    by_cases hcomplete : isComplete (joined (pending ++ [line])) = true
    · refine .inl ⟨hcomplete, ?_, fun _ => ?_⟩
      · simp only [feed, if_neg hpass, if_pos hcomplete]
      · rw [divide, if_neg hpass, if_pos hcomplete]
    · refine .inr ⟨by simpa using hcomplete, ?_, fun _ => ?_⟩
      · simp only [feed, if_neg hpass, if_neg hcomplete]
      · rw [divide, if_neg hpass, if_neg hcomplete]

theorem division_divide (h : IsOpen pending) (lines : List Text) :
    Division (pending ++ lines) (divide pending lines).1 (divide pending lines).2 := by
  induction lines generalizing pending with
  | nil => exact ⟨by simp [divide], by simp [divide], h⟩
  | cons line lines ih =>
    rcases divide_cases pending line with
      ⟨rfl, hblank, -, hdivide⟩ | ⟨hline, ⟨hcomplete, -, hdivide⟩ | ⟨hopen, -, hdivide⟩⟩
    · rw [hdivide]
      exact (ih isOpen_nil).cons (.skipped line) hblank
    · rw [hdivide, List.append_cons]
      exact (ih isOpen_nil).cons (.input _) (h.input hline hcomplete)
    · rw [hdivide, List.append_cons]
      exact ih (h.snoc hline hopen)

/-- The inputs that a session submits are those of the division, and what it leaves is the rest. -/
theorem submissions_eq (pending lines : List Text) :
    submissions pending lines =
      ((divide pending lines).1.filterMap Part.source?, (divide pending lines).2) := by
  induction lines generalizing pending with
  | nil => rfl
  | cons line lines ih =>
    rw [submissions]
    rcases divide_cases pending line with
      ⟨-, -, hfeed, hdivide⟩ | ⟨-, ⟨-, hfeed, hdivide⟩ | ⟨-, hfeed, hdivide⟩⟩ <;>
      simp [hfeed, hdivide, ih, List.filterMap_cons, Part.source?]

/-- The prompts in front of lines, of which each is read when those before it are pending. -/
def prompts (settings : Settings) (pending : List Text) : List Text → List Output
  | [] => []
  | line :: lines =>
    promptOutput settings pending :: prompts settings (pending ++ [line]) lines

/-- What a session writes for a part: a prompt for each line, and the answer of an input. -/
def Part.written (settings : Settings) : Part → List Output
  | skipped _ => [promptOutput settings []]
  | input lines => prompts settings [] lines ++ (records (joined lines)).map .log ++
      reply settings (parseSource (joined lines))

end Roster.Session
