import Roster.Proofs.Columns
import Roster.Proofs.MessageLines

/-! What the message about an unknown token shows. The carets stand under the token, and its line is
shown with it, unless an information separator ends the line: excerpts are trimmed by a wider notion
of whitespace than tokens are classified by. -/
namespace Roster
open Text WordBreak

namespace Text

/-- A line feed is a word of its own, or one with the carriage return in front of it. -/
theorem eq_lineEnd_of_newline_mem {s piece : Text} (hpiece : piece ∈ words s)
    (h : '\n' ∈ piece) : piece = ['\n'] ∨ piece = ['\r', '\n'] := by
  obtain ⟨before, after, -, hunbroken⟩ := (isCut_cut wordRule_nil [] s).unbroken_of_mem hpiece
  obtain ⟨u, v, rfl⟩ := List.append_of_mem h
  have hv : v = [] := by
    by_contra hne
    have hjoined := hunbroken (u ++ ['\n']) v (by simp) (by simp) hne
    rw [List.reverse_append, List.reverse_singleton, List.singleton_append, List.cons_append,
      wordRule_newline] at hjoined
    cases hjoined
  subst hv
  rcases List.eq_nil_or_concat u with rfl | ⟨u, p, rfl⟩
  · exact .inl rfl
  · rw [List.concat_eq_append] at hunbroken ⊢
    have hp : ofChar p = .cr := by
      by_contra hne
      have hjoined := hunbroken (u ++ [p]) ['\n'] rfl (by simp) (by simp)
      rw [List.reverse_append, List.reverse_singleton, List.singleton_append, List.cons_append,
        List.cons_append, wordRule_before_newline hne] at hjoined
      cases hjoined
    obtain rfl := ofChar_eq_cr hp
    refine .inr ?_
    rcases List.eq_nil_or_concat u with rfl | ⟨u, q, rfl⟩
    · rfl
    · rw [List.concat_eq_append] at hunbroken
      have hjoined := hunbroken (u ++ [q]) ['\r', '\n'] (by simp) (by simp) (by simp)
      simp [wordRule, ofChar_return, isLineEnd] at hjoined

end Text

variable {source : Text} {e : LexError}

/-- The token of an error: an unknown segment of its line. -/
structure LexError.Placed (e : LexError) : Prop where
  unknown : (classify e.token.value.text).kind = .unknown
  isLine : IsLine e.token.line
  segment : ∃ front after, e.token.line.words = front ++ e.token.value.text :: after ∧
    e.token.column = 1 + columns front

/-- The carets of a message stand under its token, one for each grapheme, and the token is in its
line, as far as it is no blank, behind the earlier segments. -/
structure LexError.Points (e : LexError) : Prop where
  carets : (splitAt '\n' e.message)[2]? =
    some ("  ".toList ++ pointed (e.token.column - 1) e.token.width)
  token : ∃ front after rest, e.token.line.words = front ++ e.token.value.text :: after ∧
    e.token.column = 1 + columns front ∧
      e.token.line.trimEnd Text.isBlank =
        front.flatten ++ (e.token.value.text.trimEnd Text.isBlank ++ rest)

/-- A message shows what it points at: the line in front of the carets is the line of the token. -/
structure LexError.Shows (e : LexError) : Prop extends e.Points where
  line : (splitAt '\n' e.message)[1]? = some ("  ".toList ++ e.token.line.trimEnd Text.isBlank)

namespace LexError

theorem placed_of_tokenize (h : tokenize source = .error e) : e.Placed := by
  have hfind := tokenize_eq_error_iff.1 h
  obtain ⟨s, hs, hsegment⟩ := List.mem_map.1 (List.mem_of_find?_eq_some hfind)
  have hkind : (classify s.text).kind = .unknown := by
    have hunknown := List.find?_some hfind
    rw [← hsegment] at hunknown
    exact of_decide_eq_true hunknown
  have htext : e.token.value.text = s.text := by
    rw [← hsegment, Token.ofSegment]
    exact classify_text (by simp [hkind])
  have hline : e.token.line = s.line := by rw [← hsegment, Token.ofSegment]
  have hcolumn : e.token.column = s.column := by rw [← hsegment, Token.ofSegment]
  obtain ⟨front, after, hwords, hsum, hmem, -⟩ := Segment.exists_of_mem_ofLines hs
  refine ⟨by rwa [htext], by rw [hline]; exact isLine_of_mem_cut _ hmem, front, after, ?_, ?_⟩
  · rw [hline, htext, hwords]
  · rw [hcolumn, hsum]
    rfl

namespace Placed

theorem exists_not_blank (h : e.Placed) : ∃ c ∈ e.token.value.text, Text.isBlank c = false := by
  by_contra hall
  have hblank : ∀ c ∈ e.token.value.text, Text.isBlank c = true := by simpa using hall
  have hunknown := h.unknown
  rw [classify_of_blanks hblank] at hunknown
  cases hunknown

theorem newline_not_mem_text (h : e.Placed) : '\n' ∉ e.token.value.text := by
  intro hmem
  obtain ⟨front, after, hwords, -⟩ := h.segment
  have hpiece : e.token.value.text ∈ e.token.line.words := by simp [hwords]
  obtain ⟨c, hc, hblank⟩ := h.exists_not_blank
  have hblanks : ∀ c ∈ ['\r', '\n'], Text.isBlank c = true :=
    List.forall_mem_cons.2 ⟨by decide, List.forall_mem_singleton.2 (by decide)⟩
  rcases eq_lineEnd_of_newline_mem hpiece hmem with htext | htext
  · rw [htext] at hc
    rw [hblanks c (List.mem_cons_of_mem _ hc)] at hblank
    cases hblank
  · rw [htext] at hc
    rw [hblanks c hc] at hblank
    cases hblank

theorem splitAt_message (h : e.Placed) :
    splitAt '\n' e.message =
      ["Error on ".toList ++ e.token.place ++ ": ".toList ++ e.token.value.describe,
        "  ".toList ++ e.token.line.trimEnd isMargin,
        "  ".toList ++ pointed (e.token.column - 1) e.token.width] := by
  have hplace : '\n' ∉ "Error on ".toList ++ e.token.place ++ ": ".toList :=
    newline_not_mem_append (newline_not_mem_append (by decide) e.token.newline_not_mem_place)
      (by decide)
  have hhead := newline_not_mem_append hplace
    (TokenValue.newline_not_mem_describe h.newline_not_mem_text)
  have hlines := splitAt_excerpt h.isLine hhead List.not_mem_nil onNewLine_nil
  have hexcerpt : e.token.excerpt ++ ([] ++ []) = e.token.excerpt := List.append_nil _
  have hcarets : caretLine e.token.value.text e.token.column ++ [] =
      pointed (e.token.column - 1) e.token.width := List.append_nil _
  rw [hexcerpt, hcarets] at hlines
  exact hlines

/-- The token stands in the line as far as it is no blank, behind the earlier segments. -/
theorem exists_rest (h : e.Placed) :
    ∃ front after rest, e.token.line.words = front ++ e.token.value.text :: after ∧
      e.token.column = 1 + columns front ∧
        e.token.line.trimEnd Text.isBlank =
          front.flatten ++ (e.token.value.text.trimEnd Text.isBlank ++ rest) := by
  obtain ⟨front, after, hwords, hcolumn⟩ := h.segment
  have hline : e.token.line = front.flatten ++ (e.token.value.text ++ after.flatten) := by
    rw [← flatten_words e.token.line, hwords, List.flatten_append, List.flatten_cons]
  obtain ⟨rest, hrest⟩ := exists_trimEnd_append front.flatten h.exists_not_blank after.flatten
  exact ⟨front, after, rest, hwords, hcolumn, by rw [hline, hrest]⟩

theorem points (h : e.Placed) : e.Points := by
  refine ⟨?_, h.exists_rest⟩
  rw [h.splitAt_message]
  rfl

end Placed

/-- A message points at its token, and shows it exactly if no information separator stands at the
end of the line, in front of its trailing blanks. -/
theorem points_and_shows_iff (h : tokenize source = .error e) :
    e.Points ∧
      (e.Shows ↔ ∀ c ∈ (e.token.line.trimEnd Text.isBlank).getLast?, isMargin c = false) := by
  have hplaced := placed_of_tokenize h
  have hlines := hplaced.splitAt_message
  rw [← trimEnd_isMargin_eq_iff]
  refine ⟨hplaced.points, fun hshows => ?_, fun htrim => ⟨hplaced.points, ?_⟩⟩
  · have hline := hshows.line
    rw [hlines] at hline
    exact List.append_cancel_left (Option.some.inj hline)
  · rw [hlines, ← htrim]
    rfl

/-- `Add Bob $ to Sales.`, where the dollar sign is no token. -/
theorem shows_dollar :
    ∃ e, tokenize "Add Bob $ to Sales.".toList = .error e ∧ e.token.column = 9 ∧ e.Shows := by
  have htokens : tokenize "Add Bob $ to Sales.".toList =
      .error ⟨⟨.unknown ['$'], "Add Bob $ to Sales.".toList, 1, 9⟩⟩ := by decide +kernel
  refine ⟨_, htokens, rfl, (points_and_shows_iff htokens).2.2 fun c hc => ?_⟩
  have hlast : (trimEnd Text.isBlank "Add Bob $ to Sales.".toList).getLast? = some '.' := by
    decide +kernel
  obtain rfl : '.' = c := Option.some.inj (hlast.symm.trans hc)
  decide

/-- An information separator at the end of the source is no token, and is not shown. -/
theorem not_shows_separator :
    ∃ e, tokenize "Show \x1c".toList = .error e ∧
      (splitAt '\n' e.message)[1]? = some "  Show".toList ∧ ¬e.Shows := by
  have htokens : tokenize "Show \x1c".toList =
      .error ⟨⟨.unknown ['\x1c'], "Show \x1c".toList, 1, 6⟩⟩ := by decide +kernel
  refine ⟨_, htokens, by decide +kernel, fun hshows => ?_⟩
  have hline := hshows.line
  revert hline
  decide +kernel

end LexError
end Roster
