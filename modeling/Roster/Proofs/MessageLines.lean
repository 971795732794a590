import Roster.Proofs.LineEndings
import Roster.Proofs.ReportLines

/-! The lines of a message. An excerpt ends the line in front of it, shows a source line without
its ending on the next and carets on the one after that; what follows goes on behind the carets up
to its first line feed. -/
namespace Roster
open Text

namespace Text

variable {a s t line : Text}

/-- A text that begins on a new line, if it has anything. -/
def OnNewLine (s : Text) : Prop := ∀ c ∈ s.head?, c = '\n'

/-- The lines behind a line feed at the front. -/
def linesBehind : Text → List Text
  | [] => []
  | _ :: s => splitAt '\n' s

theorem onNewLine_nil : OnNewLine [] := by simp [OnNewLine]

theorem onNewLine_cons (s : Text) : OnNewLine ('\n' :: s) := by simp [OnNewLine]

theorem OnNewLine.append (hs : OnNewLine s) (ht : OnNewLine t) : OnNewLine (s ++ t) := by
  cases s with
  | nil => exact ht
  | cons c s => exact hs

theorem splitAt_of_onNewLine (ha : '\n' ∉ a) (hs : OnNewLine s) :
    splitAt '\n' (a ++ s) = a :: linesBehind s := by
  have hnil : ∀ {s : Text} {ps : List Text}, splitAt '\n' s = [] :: ps →
      splitAt '\n' (a ++ s) = a :: ps := by
    intro s ps h
    simpa using splitAt_append ha h
  cases s with
  | nil => exact hnil rfl
  | cons c s =>
    obtain rfl := hs c rfl
    exact hnil (splitAt_cons_separator '\n' s)

theorem newline_not_mem_append (hs : '\n' ∉ s) (ht : '\n' ∉ t) : '\n' ∉ s ++ t :=
  fun h => (List.mem_append.1 h).elim hs ht

theorem mem_of_mem_trimEnd {blank : Char → Bool} {c : Char} (h : c ∈ s.trimEnd blank) : c ∈ s := by
  obtain ⟨tail, hs, -⟩ := exists_trimEnd blank s
  rw [hs]
  exact List.mem_append_left tail h

/-- A line is shown without its line feed. -/
theorem IsLine.newline_not_mem_trimEnd {blank : Char → Bool} (hfeed : blank '\n' = true)
    (h : IsLine line) : '\n' ∉ line.trimEnd blank := by
  obtain ⟨init, hinit, rfl | rfl⟩ := h
  · exact fun hmem => hinit (mem_of_mem_trimEnd hmem)
  · rw [trimEnd_append_of_forall _ (List.forall_mem_singleton.2 hfeed)]
    exact fun hmem => hinit (mem_of_mem_trimEnd hmem)

/-- Trimming the margin takes away no more than the blanks if no information separator stands in
front of them. -/
theorem trimEnd_isMargin_eq_iff : s.trimEnd isMargin = s.trimEnd isBlank ↔
    ∀ c ∈ (s.trimEnd isBlank).getLast?, isMargin c = false := by
  obtain ⟨tail, hs, htail⟩ := exists_trimEnd isBlank s
  have hmargin : s.trimEnd isMargin = (s.trimEnd isBlank).trimEnd isMargin := by
    rw [hs, trimEnd_append_of_forall _ fun c hc => isMargin_of_isBlank (htail c hc), ← hs]
  rw [hmargin, trimEnd_eq_self_iff]

theorem graphic_ofInt (n : Int) : Graphic (ofInt n) := by
  cases n with
  | ofNat n => exact graphic_ofNat n
  | negSucc n => exact graphic_cons.2 ⟨by decide, graphic_ofNat _⟩

end Text

namespace Token

theorem newline_not_mem_place (t : Token) : '\n' ∉ t.place := by
  have hline : Graphic ("line ".toList ++ ofInt t.lineNumber ++ ", column ".toList) :=
    graphic_append.2 ⟨graphic_append.2 ⟨by decide, graphic_ofInt _⟩, by decide⟩
  have hplace : Graphic t.place := graphic_append.2 ⟨hline, graphic_ofInt _⟩
  exact hplace.newline_not_mem

end Token

theorem TokenValue.newline_not_mem_describe {v : TokenValue} (h : '\n' ∉ v.text) :
    '\n' ∉ v.describe := by
  have hname : Graphic v.kind.name := by cases v.kind <;> decide
  have hname' := hname.newline_not_mem
  unfold describe
  split <;> simp [h, hname']

theorem newline_not_mem_caretLine (text : Text) (column : Int) : '\n' ∉ caretLine text column := by
  simp [caretLine, pointer]

/-- Spaces, and carets behind them. -/
def pointed (spaces : Int) (carets : Nat) : Text :=
  List.replicate spaces.toNat ' ' ++ List.replicate carets '^'

theorem caretLine_eq (text : Text) (column : Int) :
    caretLine text column = pointed (column - 1) text.graphemeLength := rfl

/-- The graphemes of a token's text. -/
def Token.width (t : Token) : Nat := t.value.text.graphemeLength

/-- An excerpt has three lines, the first of which was begun in front of it; the last goes on
behind it. -/
theorem splitAt_excerpt {t : Token} (hline : IsLine t.line) {head more tail : Text}
    (hhead : '\n' ∉ head) (hmore : '\n' ∉ more) (htail : OnNewLine tail) :
    splitAt '\n' (head ++ (t.excerpt ++ (more ++ tail))) =
      head :: ("  ".toList ++ t.line.trimEnd isMargin) ::
        ("  ".toList ++ (caretLine t.value.text t.column ++ more)) :: linesBehind tail := by
  have hexcerpt : t.excerpt ++ (more ++ tail) = '\n' :: ("  ".toList ++ t.line.trimEnd isMargin ++
      '\n' :: ("  ".toList ++ (caretLine t.value.text t.column ++ more) ++ tail)) := by
    have hfeed : "\n  ".toList = '\n' :: "  ".toList := rfl
    simp only [Token.excerpt, hfeed, List.append_assoc, List.cons_append]
  have hmargin : '\n' ∉ "  ".toList ++ t.line.trimEnd isMargin :=
    newline_not_mem_append (by decide) (hline.newline_not_mem_trimEnd (by decide))
  have hcarets : '\n' ∉ "  ".toList ++ (caretLine t.value.text t.column ++ more) :=
    newline_not_mem_append (by decide)
      (newline_not_mem_append (newline_not_mem_caretLine _ _) hmore)
  rw [hexcerpt, splitAt_of_onNewLine hhead (onNewLine_cons _), linesBehind,
    splitAt_of_onNewLine hmargin (onNewLine_cons _), linesBehind,
    splitAt_of_onNewLine hcarets htail]

end Roster
