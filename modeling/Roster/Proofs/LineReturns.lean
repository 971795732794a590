import Roster.Proofs.SourceJoining

/-! Carriage returns in front of line feeds. A line ending is one word and one cluster, whether it
has a carriage return or not, and no other word changes; so all tokens keep their values and
places, and only the lines that they stand in are other ones. -/
namespace Roster
open Text WordBreak

namespace Text

/-- The text with a carriage return in front of every line feed. -/
def withReturns (s : Text) : Text := s.flatMap fun c => if c = '\n' then ['\r', '\n'] else [c]

@[simp] theorem withReturns_nil : withReturns [] = [] := rfl

@[simp] theorem withReturns_append (s t : Text) :
    (s ++ t).withReturns = s.withReturns ++ t.withReturns := List.flatMap_append

theorem withReturns_newline (s : Text) :
    withReturns ('\n' :: s) = '\r' :: '\n' :: s.withReturns := rfl

theorem withReturns_cons {c : Char} (h : c ≠ '\n') (s : Text) :
    withReturns (c :: s) = c :: s.withReturns := by
  simp [withReturns, h]

theorem withReturns_eq_self {s : Text} (h : '\n' ∉ s) : s.withReturns = s := by
  induction s with
  | nil => rfl
  | cons c s ih =>
    rw [List.mem_cons, not_or] at h
    rw [withReturns_cons (Ne.symm h.1), ih h.2]

/-- Taking the carriage returns away gives the text back. -/
theorem filter_withReturns {s : Text} (h : '\r' ∉ s) : s.withReturns.filter (· ≠ '\r') = s := by
  induction s with
  | nil => rfl
  | cons c s ih =>
    rw [List.mem_cons, not_or] at h
    by_cases hc : c = '\n'
    · subst hc
      rw [withReturns_newline, List.filter_cons_of_neg (by simp),
        List.filter_cons_of_pos (by decide), ih h.2]
    · rw [withReturns_cons hc, List.filter_cons_of_pos (by simpa using Ne.symm h.1), ih h.2]

theorem isBlank_withReturns {s : Text} (h : ∀ c ∈ s, isBlank c = true) :
    ∀ c ∈ s.withReturns, isBlank c = true := by
  have hreturn : isBlank '\r' = true := by decide
  intro c hc
  obtain ⟨d, hd, hc⟩ := List.mem_flatMap.1 hc
  split at hc
  · rcases List.mem_cons.1 hc with rfl | hc
    · exact hreturn
    · rw [List.mem_singleton.1 hc]
      decide
  · rw [List.mem_singleton.1 hc]
    exact h d hd

theorem ne_newline_of_isBlank {c : Char} (h : isBlank c = false) : c ≠ '\n' := by
  rintro rfl
  revert h
  decide

theorem trim_withReturns (s : Text) :
    s.withReturns.trim isBlank = (s.trim isBlank).withReturns := by
  obtain ⟨lead, tail, hs, hlead, htail⟩ := exists_trim isBlank s
  obtain ⟨hhead, hlast⟩ := trim_ends isBlank s
  generalize s.trim isBlank = u at *
  subst hs
  rw [withReturns_append, withReturns_append,
    trim_append (isBlank_withReturns hlead) (isBlank_withReturns htail)]
  apply trim_eq_self
  · cases u with
    | nil => simp
    | cons c u =>
      have hc : isBlank c = false := hhead c rfl
      rw [withReturns_cons (ne_newline_of_isBlank hc)]
      simpa using hc
  · rcases List.eq_nil_or_concat u with rfl | ⟨u, c, rfl⟩
    · simp
    · rw [List.concat_eq_append] at hlast ⊢
      have hc : isBlank c = false := hlast c (by simp)
      rw [withReturns_append, withReturns_cons (ne_newline_of_isBlank hc)]
      simpa using hc

theorem cut_lineRule_withReturns (before before' s : Text) :
    cut lineRule before s.withReturns = (cut lineRule before' s).map withReturns := by
  induction s generalizing before before' with
  | nil => rfl
  | cons c s ih =>
    by_cases hc : c = '\n'
    · subst hc
      have hrest := ih ('\n' :: '\r' :: before) ('\n' :: before')
      rw [withReturns_newline]
      simp only [cut, hrest]
      cases cut lineRule ('\n' :: before') s <;> simp [lineRule, withReturns_newline]
    · have hrest := ih (c :: before) (c :: before')
      rw [withReturns_cons hc]
      simp only [cut, hrest]
      cases cut lineRule (c :: before') s <;> simp [lineRule, hc, withReturns_cons hc]

theorem lines_withReturns (s : Text) : s.withReturns.lines = s.lines.map withReturns :=
  cut_lineRule_withReturns [] [] s

/-- A text in which a line feed can stand at the end only. -/
def IsLine (line : Text) : Prop := ∃ init, '\n' ∉ init ∧ (line = init ∨ line = init ++ ['\n'])

theorem isLine_singleton (c : Char) : IsLine [c] := by
  by_cases hc : c = '\n'
  · exact ⟨[], by simp, .inr (by simp [hc])⟩
  · exact ⟨[c], by simpa using Ne.symm hc, .inl rfl⟩

theorem IsLine.cons {c : Char} {line : Text} (hc : c ≠ '\n') (h : IsLine line) :
    IsLine (c :: line) := by
  obtain ⟨init, hinit, rfl | rfl⟩ := h
  · exact ⟨c :: line, by simp [hinit, Ne.symm hc], .inl rfl⟩
  · exact ⟨c :: init, by simp [hinit, Ne.symm hc], .inr rfl⟩

theorem isLine_of_mem_cut {before s : Text} : ∀ line ∈ cut lineRule before s, IsLine line := by
  induction s generalizing before with
  | nil => simp
  | cons c s ih =>
    have hrest := @ih (c :: before)
    rw [cut]
    cases hcut : cut lineRule (c :: before) s with
    | nil => simpa using isLine_singleton c
    | cons piece pieces =>
      rw [hcut, List.forall_mem_cons] at hrest
      dsimp only
      split
      next =>
        rw [List.forall_mem_cons, List.forall_mem_cons]
        exact ⟨isLine_singleton c, hrest⟩
      next hrule =>
        have hc : c ≠ '\n' := by
          rintro rfl
          simp [lineRule] at hrule
        rw [List.forall_mem_cons]
        exact ⟨hrest.1.cons hc, hrest.2⟩

theorem ofChar_return : ofChar '\r' = .cr := by decide

/-- The class of carriage returns at any other place in the table. -/
def WordBreak.isOtherReturn (entry : Nat × Nat × WordBreak) : Bool :=
  entry.2.2 == .cr && entry != (0xD, 0xD, .cr)

theorem ofChar_eq_cr {c : Char} (h : ofChar c = .cr) : c = '\r' := by
  have entry : ∀ {table : CodeTable WordBreak},
      CodeRanges.avoids WordBreak.isOtherReturn [(0, 0x10FFFF)] table = true →
      (table.find? c.toNat).getD .other = .cr → c.toNat = 0xD := by
    intro table htable hclass
    have hcode : c.toNat ≤ 0x10FFFF := by
      have hvalid : c.toNat < 0xD800 ∨ 0xDFFF < c.toNat ∧ c.toNat < 0x110000 := c.valid
      omega
    have hrange : CodeRanges.contains [(0, 0x10FFFF)] c.toNat = true := by
      simp [CodeRanges.contains, hcode]
    cases hfind : table.find? c.toNat with
    | none =>
      rw [hfind] at hclass
      cases hclass
    | some a =>
      rw [hfind] at hclass
      obtain rfl : a = .cr := hclass
      obtain ⟨first, last, hfirst, hlast, hok⟩ := CodeRanges.avoids_sound htable hrange hfind
      simp only [WordBreak.isOtherReturn, beq_self_eq_true, Bool.true_and, bne_eq_false_iff_eq,
        Prod.mk.injEq] at hok
      omega
  have hcode : c.toNat = 0xD := by
    rw [ofChar] at h
    split at h
    · exact entry (by decide +kernel) h
    · exact entry (by decide +kernel) h
  exact Char.ext (UInt32.toNat_inj.1 hcode)

theorem unbroken_pair {rule : CutRule} {before after : Text} {c d : Char}
    (h : rule (c :: before) (d :: after) = false) : Unbroken rule before [c, d] after := by
  intro u v huv hu hv
  rcases u with _ | ⟨a, _ | ⟨b, u⟩⟩
  · exact absurd rfl hu
  · obtain ⟨rfl, rfl⟩ := List.cons.inj huv
    exact h
  · have hlength := congrArg List.length huv
    have hpos : 0 < v.length := List.length_pos_iff.2 hv
    simp only [List.length_cons, List.length_append, List.length_nil] at hlength
    omega

/-- A line ending is a word of its own. -/
theorem words_lineEnd {s ending : Text} (hs : '\r' ∉ s)
    (hending : ending = ['\n'] ∨ ending = ['\r', '\n']) :
    words (s ++ ending) = words s ++ [ending] := by
  have hcut : ∀ c ∈ s, ofChar c ≠ .cr := by
    rintro c hc hclass
    exact hs (ofChar_eq_cr hclass ▸ hc)
  have hlone : LoneHead ending := by
    rcases hending with rfl | rfl <;> simp [LoneHead, ofChar_newline, ofChar_return, isLone]
  have hfront : s ≠ [] → wordRule s.reverse ending = true := by
    intro hne
    obtain ⟨init, p, rfl⟩ := (List.eq_nil_or_concat s).resolve_left hne
    rw [List.concat_eq_append] at hcut ⊢
    rw [List.reverse_append, List.reverse_singleton, List.singleton_append]
    have hp : ofChar p ≠ .cr := hcut p (by simp)
    rcases hending with rfl | rfl
    · exact wordRule_before_newline hp
    · simp [wordRule, ofChar_return, isLineEnd]
  have hpiece : IsCut wordRule s.reverse [ending] [] := by
    rcases hending with rfl | rfl
    · exact isCut_singleton.2 (wordRule_newline _ _)
    · have hpair : wordRule ('\r' :: s.reverse) ['\n'] = false := by
        simp [wordRule, ofChar_return, ofChar_newline]
      exact ⟨by simp, unbroken_pair hpair, wordRule_nil _, trivial⟩
  exact words_append (by simp) hlone hfront hpiece

theorem withReturns_of_mem_words {s piece : Text} (hs : '\n' ∉ s) (h : piece ∈ words s) :
    piece.withReturns = piece := by
  apply withReturns_eq_self
  exact fun hmem => hs (mem_of_mem_cut h hmem)

theorem map_withReturns_words {s : Text} (hs : '\n' ∉ s) :
    (words s).map withReturns = words s := by
  calc
    (words s).map withReturns = (words s).map id :=
      List.map_congr_left fun piece hpiece => withReturns_of_mem_words hs hpiece
    _ = words s := List.map_id _

/-- A change of a line's pieces that the tokens do not show. -/
structure SamePiece (piece piece' : Text) : Prop where
  value : classify piece' = classify piece
  length : piece'.graphemeLength = piece.graphemeLength

/-- The parts of a line are cut alike, and its ending stays whitespace of one column. -/
theorem words_withReturns {s line : Text} (hline : line ∈ s.lines) (hreturn : '\r' ∉ line) :
    words line.withReturns = (words line).map withReturns ∧
      ∀ piece ∈ words line, SamePiece piece piece.withReturns := by
  have hsame : ∀ {s : Text}, '\n' ∉ s → ∀ piece ∈ words s, SamePiece piece piece.withReturns := by
    intro s hs piece hpiece
    rw [withReturns_of_mem_words hs hpiece]
    exact ⟨rfl, rfl⟩
  obtain ⟨init, hinit, rfl | rfl⟩ := isLine_of_mem_cut line hline
  · rw [withReturns_eq_self hinit, map_withReturns_words hinit]
    exact ⟨rfl, hsame hinit⟩
  · rw [List.mem_append, not_or] at hreturn
    have hfeed : withReturns ['\n'] = ['\r', '\n'] := rfl
    have hending : SamePiece ['\n'] (withReturns ['\n']) := ⟨by decide, by decide⟩
    rw [withReturns_append, withReturns_eq_self hinit, words_lineEnd hreturn.1 (.inl rfl),
      List.map_append, map_withReturns_words hinit, List.map_singleton, hfeed,
      words_lineEnd hreturn.1 (.inr rfl)]
    refine ⟨rfl, List.forall_mem_append.2 ⟨hsame hinit, ?_⟩⟩
    simpa using hending

end Text

def Token.withReturns (t : Token) : Token := { t with line := t.line.withReturns }

theorem map_ofSegment_place {pieces : List Text}
    (h : ∀ piece ∈ pieces, SamePiece piece piece.withReturns)
    (line : Text) (lineNumber column : Nat) :
    (Segment.place line.withReturns lineNumber column (pieces.map withReturns)).map
        Token.ofSegment =
      ((Segment.place line lineNumber column pieces).map Token.ofSegment).map
        Token.withReturns := by
  induction pieces generalizing column with
  | nil => rfl
  | cons piece pieces ih =>
    rw [List.forall_mem_cons] at h
    obtain ⟨⟨hvalue, hlength⟩, hrest⟩ := h
    simp only [List.map_cons, Segment.place, hlength, ih hrest]
    simp [Token.ofSegment, Token.withReturns, hvalue]

theorem map_ofSegment_ofLines {ls : List Text}
    (h : ∀ line ∈ ls, words line.withReturns = (words line).map withReturns ∧
      ∀ piece ∈ words line, SamePiece piece piece.withReturns) (lineNumber : Nat) :
    (Segment.ofLines lineNumber (ls.map withReturns)).map Token.ofSegment =
      ((Segment.ofLines lineNumber ls).map Token.ofSegment).map Token.withReturns := by
  induction ls generalizing lineNumber with
  | nil => rfl
  | cons line ls ih =>
    rw [List.forall_mem_cons] at h
    obtain ⟨⟨hwords, hpieces⟩, hrest⟩ := h
    simp only [List.map_cons, Segment.ofLines, List.map_append, hwords, ih hrest,
      map_ofSegment_place hpieces]

/-- Characters of the lines of a trimmed source are characters of the source. -/
theorem mem_of_mem_lines {source line : Text} {c : Char}
    (hline : line ∈ (source.trim isBlank).lines) (hc : c ∈ line) : c ∈ source := by
  obtain ⟨lead, tail, hs, -⟩ := exists_trim isBlank source
  have hmem : c ∈ source.trim isBlank := mem_of_mem_cut hline hc
  rw [hs]
  simp [hmem]

theorem map_ofSegment_withReturns {source : Text} (h : '\r' ∉ source) :
    (segments source.withReturns).map Token.ofSegment =
      ((segments source).map Token.ofSegment).map Token.withReturns := by
  rw [segments, trim_withReturns, lines_withReturns]
  apply map_ofSegment_ofLines
  intro line hline
  exact words_withReturns hline fun hc => h (mem_of_mem_lines hline hc)

/-- The tokens have the same values at the same places; so has the token that is none. -/
theorem tokenize_withReturns {source : Text} (h : '\r' ∉ source) :
    tokenize source.withReturns =
      ((tokenize source).map (List.map Token.withReturns)).mapError
        fun e => ⟨e.token.withReturns⟩ := by
  have hvalue : ((fun t => decide (t.value.kind = .unknown)) ∘ Token.withReturns) =
      fun t : Token => decide (t.value.kind = .unknown) := rfl
  simp only [tokenize, map_ofSegment_withReturns h]
  generalize (segments source).map Token.ofSegment = ts
  rw [List.find?_map, hvalue]
  cases ts.find? fun t => decide (t.value.kind = .unknown) <;> rfl

end Roster
