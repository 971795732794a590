import Roster.Proofs.Columns
import Roster.Proofs.LineReturns
import Roster.Proofs.TokenOrder

/-! How a source is laid out in segments. Trimming apart, nothing is lost: the lines make up the
text, the segments of a line make up the line, and each stands in the column behind the earlier
ones. Where all segments are known, they are the tokens, one to one. -/
namespace Roster
open Text

/-- Lines of a text, each with its line feed. -/
structure AreLines (ls : List Text) (t : Text) : Prop where
  flatten : ls.flatten = t
  ne_nil : ∀ line ∈ ls, line ≠ []
  isLine : ∀ line ∈ ls, IsLine line
  ended : ∀ line ∈ ls.dropLast, line.getLast? = some '\n'

namespace Text

/-- Where a line is not the last, the rule has cut behind its line feed. -/
theorem getLast_of_mem_dropLast {before : Text} {ls : List Text}
    (h : IsCut lineRule.orEnd before ls []) : ∀ line ∈ ls.dropLast, line.getLast? = some '\n' := by
  induction ls generalizing before with
  | nil => simp
  | cons line ls ih =>
    obtain ⟨hne, -, hrule, hls⟩ := h
    cases ls with
    | nil => simp
    | cons next ls =>
      rw [List.dropLast_cons_cons, List.forall_mem_cons]
      refine ⟨?_, ih hls⟩
      have hnext : ((next :: ls).flatten ++ []).isEmpty = false := by
        obtain ⟨c, rest, rfl⟩ := List.exists_cons_of_ne_nil hls.1
        rfl
      rw [CutRule.orEnd, hnext, Bool.false_or, lineRule, beq_iff_eq, List.head?_append,
        List.head?_reverse, List.getLast?_eq_some_getLast hne, Option.some_or] at hrule
      rw [List.getLast?_eq_some_getLast hne, hrule]

theorem areLines_lines (t : Text) : AreLines t.lines t := by
  refine ⟨flatten_cut _ _ _, cut_pieces_ne_nil _ _ _, isLine_of_mem_cut, ?_⟩
  exact getLast_of_mem_dropLast (isCut_lines t)

end Text

namespace Segment

variable {line : Text} {lineNumber column k : Nat} {pieces ls : List Text} {s : Segment}

/-- The segments that stand in one line. -/
def inLine (k : Nat) (ss : List Segment) : List Segment := ss.filter fun s => s.lineNumber = k

/-- A segment is in front of another: on an earlier line, or to the left on the same line. -/
def Precedes (s u : Segment) : Prop :=
  s.lineNumber < u.lineNumber ∨ s.lineNumber = u.lineNumber ∧ s.column < u.column

theorem inLine_append (k : Nat) (ss us : List Segment) :
    inLine k (ss ++ us) = inLine k ss ++ inLine k us := List.filter_append ..

theorem inLine_place_self (line : Text) (k column : Nat) (pieces : List Text) :
    inLine k (place line k column pieces) = place line k column pieces := by
  rw [inLine, List.filter_eq_self]
  intro s hs
  obtain ⟨_, _, -, -, -, hnumber⟩ := exists_of_mem_place hs
  simpa using hnumber

theorem inLine_place_of_ne (hk : lineNumber ≠ k) (line : Text) (column : Nat)
    (pieces : List Text) : inLine k (place line lineNumber column pieces) = [] := by
  rw [inLine, List.filter_eq_nil_iff]
  intro s hs
  obtain ⟨_, _, -, -, -, hnumber⟩ := exists_of_mem_place hs
  simpa [hnumber] using hk

theorem inLine_ofLines_of_lt (hk : k < lineNumber) (ls : List Text) :
    inLine k (ofLines lineNumber ls) = [] := by
  rw [inLine, List.filter_eq_nil_iff]
  intro s hs
  obtain ⟨_, _, -, -, -, hnumber⟩ := exists_of_mem_ofLines hs
  have hne : s.lineNumber ≠ k := by omega
  simpa using hne

/-- The segments of a line are its words, from the first column on. -/
theorem inLine_ofLines {i : Nat} (h : ls[i]? = some line) (lineNumber : Nat) :
    inLine (lineNumber + i) (ofLines lineNumber ls) =
      place line (lineNumber + i) 1 line.words := by
  induction ls generalizing lineNumber i with
  | nil => simp at h
  | cons first ls ih =>
    rw [ofLines, inLine_append]
    cases i with
    | zero =>
      obtain rfl : first = line := by simpa using h
      rw [Nat.add_zero, inLine_place_self, inLine_ofLines_of_lt (Nat.lt_succ_self _),
        List.append_nil]
    | succ i =>
      have hrest := ih (by simpa using h) (lineNumber + 1)
      rw [Nat.add_right_comm, Nat.add_assoc] at hrest
      rw [inLine_place_of_ne (by omega), List.nil_append, hrest]

/-- A segment stands in the line that its number says. -/
theorem line_of_mem_ofLines (h : s ∈ ofLines lineNumber ls) :
    ∃ i, s.lineNumber = lineNumber + i ∧ ls[i]? = some s.line := by
  induction ls generalizing lineNumber with
  | nil => cases h
  | cons first ls ih =>
    rcases List.mem_append.1 h with h | h
    · obtain ⟨_, _, -, -, hline, hnumber⟩ := exists_of_mem_place h
      exact ⟨0, hnumber, by simp [hline]⟩
    · obtain ⟨i, hnumber, hline⟩ := ih h
      exact ⟨i + 1, by omega, by simpa using hline⟩

theorem column_of_place {front after : List Segment}
    (h : place line lineNumber column pieces = front ++ s :: after) :
    s.column = column + columns (front.map text) := by
  induction front generalizing column pieces with
  | nil =>
    cases pieces with
    | nil => cases h
    | cons piece pieces =>
      rw [place, List.nil_append, List.cons.injEq] at h
      rw [← h.1]
      rfl
  | cons u front ih =>
    cases pieces with
    | nil => cases h
    | cons piece pieces =>
      rw [place, List.cons_append, List.cons.injEq] at h
      have hcolumn := ih h.2
      rw [hcolumn, ← h.1, List.map_cons, columns, Nat.add_assoc]

/-- A segment stands behind the earlier segments of its line. -/
theorem column_of_ofLines {front after : List Segment}
    (h : ofLines lineNumber ls = front ++ s :: after) :
    s.column = 1 + columns ((inLine s.lineNumber front).map text) := by
  have hmem : s ∈ ofLines lineNumber ls := by simp [h]
  obtain ⟨i, hnumber, hline⟩ := line_of_mem_ofLines hmem
  have hself : inLine s.lineNumber (s :: after) = s :: inLine s.lineNumber after := by
    simp [inLine]
  have hwords := inLine_ofLines hline lineNumber
  rw [← hnumber, h, inLine_append, hself] at hwords
  exact column_of_place hwords.symm

theorem isChain_place (line : Text) (lineNumber column : Nat) (pieces : List Text) :
    (place line lineNumber column pieces).IsChain fun s u =>
      u.lineNumber = s.lineNumber ∨ u.lineNumber = s.lineNumber + 1 := by
  induction pieces generalizing column with
  | nil => exact .nil
  | cons piece pieces ih =>
    refine List.isChain_cons.2 ⟨fun u hu => .inl ?_, ih _⟩
    obtain ⟨_, _, -, -, -, hnumber⟩ := exists_of_mem_place (List.mem_of_mem_head? hu)
    exact hnumber

theorem lineNumber_of_head (hne : ∀ line ∈ ls, line ≠ []) :
    ∀ s ∈ (ofLines lineNumber ls).head?, s.lineNumber = lineNumber := by
  cases ls with
  | nil => simp [ofLines]
  | cons line ls =>
    have hcut : line.words ≠ [] := cut_ne_nil (hne line (by simp))
    obtain ⟨piece, pieces, hwords⟩ := List.exists_cons_of_ne_nil hcut
    rw [ofLines, hwords, place]
    simp

theorem lineNumber_of_getLast (hne : ∀ line ∈ ls, line ≠ []) :
    ∀ s ∈ (ofLines lineNumber ls).getLast?, s.lineNumber + 1 = lineNumber + ls.length := by
  induction ls generalizing lineNumber with
  | nil => simp [ofLines]
  | cons line ls ih =>
    rw [List.forall_mem_cons] at hne
    intro s hs
    rw [ofLines, List.getLast?_append] at hs
    rcases Option.or_eq_some_iff.1 hs with hs | ⟨hnone, hs⟩
    · have hlast := ih hne.2 s hs
      rw [List.length_cons]
      omega
    · -- the line is the last one, since each other one has a segment
      obtain ⟨_, _, -, -, -, hnumber⟩ := exists_of_mem_place (List.mem_of_mem_getLast? hs)
      cases ls with
      | nil => rw [hnumber, List.length_singleton]
      | cons next ls =>
        rw [List.getLast?_eq_none_iff] at hnone
        have htexts := congrArg (List.map text) hnone
        rw [map_text_ofLines] at htexts
        have hwords : next.words = [] := (List.append_eq_nil_iff.1 htexts).1
        exact absurd hwords (cut_ne_nil (hne.2 next (by simp)))

/-- From one segment to the next, the line number stays or becomes the next one. -/
theorem isChain_ofLines (hne : ∀ line ∈ ls, line ≠ []) (lineNumber : Nat) :
    (ofLines lineNumber ls).IsChain fun s u =>
      u.lineNumber = s.lineNumber ∨ u.lineNumber = s.lineNumber + 1 := by
  induction ls generalizing lineNumber with
  | nil => exact .nil
  | cons line ls ih =>
    rw [List.forall_mem_cons] at hne
    refine List.isChain_append.2 ⟨isChain_place _ _ _ _, ih hne.2 _, fun s hs u hu => .inr ?_⟩
    obtain ⟨_, _, -, -, -, hnumber⟩ := exists_of_mem_place (List.mem_of_mem_getLast? hs)
    rw [hnumber, lineNumber_of_head hne.2 u hu]

/-- No segment is empty, so those in front of another end in front of it. -/
theorem Before.precedes {s u : Segment} (hs : s.text ≠ []) (h : s.Before u) : s.Precedes u := by
  have hpos : 0 < s.text.graphemeLength := List.length_pos_iff.2 (cut_ne_nil hs)
  rcases h with h | ⟨hline, hcolumn⟩
  · exact .inl h
  · exact .inr ⟨hline, by omega⟩

end Segment

/-- Segments that make up a text line by line. -/
structure LaidOut (t : Text) (ss : List Segment) : Prop where
  lines : AreLines t.lines t
  ne_nil : ∀ s ∈ ss, s.text ≠ []
  flatten : (ss.map Segment.text).flatten = t
  line : ∀ i line, t.lines[i]? = some line →
    (∀ s ∈ Segment.inLine (i + 1) ss, s.line = line) ∧
      ((Segment.inLine (i + 1) ss).map Segment.text).flatten = line
  first : ∀ s ∈ ss.head?, s.lineNumber = 1
  next : ss.IsChain fun s u => u.lineNumber = s.lineNumber ∨ u.lineNumber = s.lineNumber + 1
  last : ∀ s ∈ ss.getLast?, s.lineNumber = t.lines.length
  column : ∀ front s after, ss = front ++ s :: after →
    s.column = 1 + columns ((Segment.inLine s.lineNumber front).map Segment.text)
  increasing : ss.Pairwise Segment.Precedes

/-- A token that stands for a segment. Its value keeps the text, unless that is whitespace. -/
structure Token.StandsFor (t : Token) (s : Segment) : Prop where
  line : t.line = s.line
  lineNumber : t.lineNumber = s.lineNumber
  column : t.column = s.column
  blank : t.value.kind = .whitespace ↔ ∀ c ∈ s.text, Text.isBlank c = true
  text : t.value.kind ≠ .whitespace → t.value.text = s.text

theorem Token.standsFor_ofSegment (s : Segment) : (Token.ofSegment s).StandsFor s := by
  refine ⟨rfl, rfl, rfl, ⟨blanks_of_classify, fun hb => ?_⟩, classify_text⟩
  rw [ofSegment, classify_of_blanks hb]
  rfl

theorem laidOut_ofLines (t : Text) : LaidOut t (Segment.ofLines 1 t.lines) := by
  have hlines := areLines_lines t
  have hflat : ((Segment.ofLines 1 t.lines).map Segment.text).flatten = t := by
    rw [map_text_ofLines, flatMap_words_lines, flatten_words]
  have hne : ∀ s ∈ Segment.ofLines 1 t.lines, s.text ≠ [] := by
    intro s hs
    obtain ⟨front, after, hwords, -⟩ := Segment.exists_of_mem_ofLines hs
    exact cut_pieces_ne_nil wordRule [] s.line s.text (by rw [← words, hwords]; simp)
  refine ⟨hlines, hne, hflat, ?line, ?first, ?next, ?last, ?column, ?increasing⟩
  case line =>
    intro i line hi
    have hwords := Segment.inLine_ofLines hi 1
    rw [Nat.add_comm i 1, hwords]
    refine ⟨fun s hs => ?_, ?_⟩
    · obtain ⟨_, _, -, -, hline, -⟩ := Segment.exists_of_mem_place hs
      exact hline
    · rw [map_text_place, flatten_words]
  case first => exact Segment.lineNumber_of_head hlines.ne_nil
  case next => exact Segment.isChain_ofLines hlines.ne_nil 1
  case last =>
    intro s hs
    have hlast := Segment.lineNumber_of_getLast hlines.ne_nil s hs
    omega
  case column => exact fun front s after h => Segment.column_of_ofLines h
  case increasing =>
    refine (Segment.pairwise_ofLines 1 t.lines).imp_of_mem fun hs _ h => ?_
    exact Segment.Before.precedes (hne _ hs) h

/-- The segments of a source make up the trimmed source, and its tokens, if it has only known
segments, stand for them one to one. -/
theorem laidOut_segments (source : Text) :
    LaidOut (source.trim isBlank) (segments source) ∧
      ∀ ts, tokenize source = .ok ts → List.Forall₂ Token.StandsFor ts (segments source) := by
  refine ⟨laidOut_ofLines _, fun ts h => ?_⟩
  obtain ⟨rfl, -⟩ := tokenize_eq_ok_iff.1 h
  rw [List.forall₂_map_left_iff, List.forall₂_same]
  exact fun s _ => Token.standsFor_ofSegment s

/-- A source of two lines. -/
theorem laidOut_brokenName :
    ∃ ts, tokenize " Show Ann\nLee. ".toList = .ok ts ∧
      ts.map (fun t => (t.value.text, t.lineNumber, t.column)) =
        [("Show".toList, 1, 1), ([], 1, 5), ("Ann".toList, 1, 6), ([], 1, 9),
          ("Lee".toList, 2, 1), (['.'], 2, 4)] ∧
      LaidOut "Show Ann\nLee.".toList (segments " Show Ann\nLee. ".toList) ∧
        List.Forall₂ Token.StandsFor ts (segments " Show Ann\nLee. ".toList) := by
  have htokens : tokenize " Show Ann\nLee. ".toList =
      .ok ((segments " Show Ann\nLee. ".toList).map Token.ofSegment) :=
    tokenize_eq_ok_iff.2 ⟨rfl, by decide +kernel⟩
  have htrim : trim isBlank " Show Ann\nLee. ".toList = "Show Ann\nLee.".toList := by decide
  obtain ⟨hlaid, hstands⟩ := laidOut_segments " Show Ann\nLee. ".toList
  exact ⟨_, htokens, by decide +kernel, htrim ▸ hlaid, hstands _ htokens⟩

end Roster
