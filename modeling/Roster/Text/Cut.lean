import Roster.Text.Basic

/-! Cutting text into pieces. A rule sees the text before a position, nearest character first, and
the text after it, and says whether to cut there. No character is lost and no piece is empty. -/
namespace Roster.Text

abbrev CutRule := Text → Text → Bool

/-- The pieces of a text that follows `before`. -/
def cut (rule : CutRule) (before : Text) : Text → List Text
  | [] => []
  | c :: rest =>
    match cut rule (c :: before) rest with
    | [] => [[c]]
    | piece :: pieces =>
      if rule (c :: before) rest then [c] :: piece :: pieces else (c :: piece) :: pieces

@[simp] theorem cut_nil (rule : CutRule) (before : Text) : cut rule before [] = [] := rfl

@[simp] theorem flatten_cut (rule : CutRule) (before s : Text) :
    (cut rule before s).flatten = s := by
  induction s generalizing before with
  | nil => rfl
  | cons c rest ih =>
    have h := ih (c :: before)
    rw [cut]
    split <;> rename_i heq
    · simp_all
    · split <;> simp_all

theorem mem_of_mem_cut {rule : CutRule} {before s piece : Text} {c : Char}
    (h : piece ∈ cut rule before s) (hc : c ∈ piece) : c ∈ s := by
  rw [← flatten_cut rule before s]
  exact List.mem_flatten_of_mem h hc

theorem cut_pieces_ne_nil (rule : CutRule) (before s : Text) :
    ∀ piece ∈ cut rule before s, piece ≠ [] := by
  induction s generalizing before with
  | nil => simp
  | cons c rest ih =>
    have h := ih (c :: before)
    rw [cut]
    split <;> rename_i heq
    · simp
    · split <;> simp_all

/-- A line ends after each line feed. -/
def lineRule : CutRule := fun before _ => before.head? == some '\n'

/-- Physical lines, each with its line feed. -/
def lines (s : Text) : List Text := cut lineRule [] s

end Roster.Text
