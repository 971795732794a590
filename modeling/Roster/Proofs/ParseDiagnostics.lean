import Roster.Proofs.Columns
import Roster.Proofs.FailingStatement
import Roster.Proofs.MessageLines

/-! What the message of a parse error points at. The carets stand under the first token of the
statement and under the unexpected one, which is never in front of it: on the same line the second
run goes on behind the first, and on a later line the unexpected token has an excerpt of its own. -/
namespace Roster
open Text Vocabulary

/-- A token as it comes from a source of letters, blanks and marks. -/
structure Token.Placed (t : Token) : Prop where
  isLine : IsLine t.line
  sourceChars : ∀ c ∈ t.line, IsSourceChar c
  graphic : Graphic t.value.text
  column_pos : 1 ≤ t.column

theorem le_toNat_of_isMark {c : Char} (h : isMark [c] = true) : 0x20 ≤ c.toNat := by
  rcases WordBreak.eq_of_isMark h with rfl | rfl | rfl | rfl <;> decide

/-- Whitespace has no text, and nothing else in the grammar is a control character. -/
theorem graphic_classify {s : Text} (h : (classify s).kind ≠ .unknown) :
    Graphic (classify s).text := by
  by_cases hblank : ∀ c ∈ s, Text.isBlank c = true
  · rw [classify_of_blanks hblank]
    exact graphic_nil
  · have htext : (classify s).text = s :=
      classify_text fun hkind => hblank (blanks_of_classify hkind)
    rw [htext]
    rcases classify_cases h with hb | ⟨c, rfl, hmark⟩ | hletters
    · exact absurd hb hblank
    · exact List.forall_mem_singleton.2 (le_toNat_of_isMark hmark)
    · exact fun c hc => graphic_of_isLetter (hletters c hc)

theorem placed_of_tokenize {source : Text} {ts : List Token} (h : tokenize source = .ok ts) :
    ∀ t ∈ ts, t.Placed := by
  obtain ⟨rfl, hkinds⟩ := tokenize_eq_ok_iff.1 h
  obtain ⟨hsource, -⟩ := sourceChars_of_words hkinds
  intro t ht
  obtain ⟨s, hs, rfl⟩ := List.mem_map.1 ht
  obtain ⟨front, after, -, hcolumn, hline, -⟩ := Segment.exists_of_mem_ofLines hs
  refine ⟨isLine_of_mem_cut _ hline, fun c hc => hsource c (mem_of_mem_cut hline hc), ?_, ?_⟩
  · apply graphic_classify
    apply hkinds
    rw [← map_value_segments]
    exact List.mem_map_of_mem (List.mem_map_of_mem hs)
  · simp only [Token.ofSegment]
    omega

/-- Such a line has no margin but blanks. -/
theorem Token.Placed.trimEnd_eq {t : Token} (h : t.Placed) :
    t.line.trimEnd isMargin = t.line.trimEnd Text.isBlank := by
  rw [trimEnd_isMargin_eq_iff]
  intro c hc
  have hblank : Text.isBlank c = false := getLast_trimEnd t.line c hc
  have hgraphic : 0x20 ≤ c.toNat := by
    rcases h.sourceChars c (mem_of_mem_trimEnd (List.mem_of_mem_getLast? hc)) with hb | hl | hm
    · rw [hblank] at hb
      cases hb
    · exact graphic_of_isLetter hl
    · exact le_toNat_of_isMark hm
  simp [isMargin, hblank]
  omega

namespace ParseError

variable {e : ParseError} {t : Token}

/-- The first line of a message about a place. -/
def headline (e : ParseError) (t : Token) : Text :=
  e.heading ++ " on ".toList ++ t.place ++ [':']

/-- The message points at both tokens on one line. -/
structure PointsAlong (e : ParseError) (t : Token) : Prop where
  behind : e.start.column + e.start.width ≤ t.column
  headline : (splitAt '\n' e.message)[0]? = some (e.headline t)
  carets : (splitAt '\n' e.message)[2]? =
    some ("  ".toList ++ pointed (e.start.column - 1) e.start.width ++
      pointed (t.column - e.start.column - e.start.width) t.width)

/-- The message points at the start of the statement, and below that at a token on its line. -/
structure PointsBelow (e : ParseError) (t : Token) : Prop where
  headline : (splitAt '\n' e.message)[0]? = some (e.headline e.start)
  carets : (splitAt '\n' e.message)[2]? =
    some ("  ".toList ++ pointed (e.start.column - 1) e.start.width)
  notice : (splitAt '\n' e.message)[3]? =
    some ("Unexpected ".toList ++ t.value.describe ++ " on ".toList ++ t.place ++ [':'])
  line : (splitAt '\n' e.message)[4]? = some ("  ".toList ++ t.line.trimEnd isBlank)
  mark : (splitAt '\n' e.message)[5]? = some ("  ".toList ++ pointed (t.column - 1) t.width)

/-- The line in front of the excerpt of an unexpected token on a later line. -/
def notice (t : Token) : Text :=
  "Unexpected ".toList ++ t.value.describe ++ " on ".toList ++ t.place ++ [':']

theorem newline_not_mem_notice (ht : t.Placed) : '\n' ∉ notice t := by
  have hvalue : '\n' ∉ "Unexpected ".toList ++ t.value.describe :=
    newline_not_mem_append (by decide)
      (TokenValue.newline_not_mem_describe ht.graphic.newline_not_mem)
  have hon : '\n' ∉ "Unexpected ".toList ++ t.value.describe ++ " on ".toList :=
    newline_not_mem_append hvalue (by decide)
  exact newline_not_mem_append (newline_not_mem_append hon t.newline_not_mem_place) (by decide)

theorem newline_not_mem_headline (e : ParseError) (t : Token) : '\n' ∉ e.headline t := by
  have hheading : Graphic e.heading := by
    unfold heading
    cases e.kind <;> decide
  have hon : '\n' ∉ e.heading ++ " on ".toList :=
    newline_not_mem_append hheading.newline_not_mem (by decide)
  exact newline_not_mem_append (newline_not_mem_append hon t.newline_not_mem_place) (by decide)

theorem onNewLine_hints (e : ParseError) : OnNewLine (e.expectedPart ++ e.detailsPart) := by
  apply OnNewLine.append
  · unfold expectedPart
    split
    · exact onNewLine_nil
    · exact onNewLine_nil
    · exact onNewLine_cons _
  · unfold detailsPart
    split
    · exact onNewLine_nil
    · exact onNewLine_nil
    · exact onNewLine_cons _

theorem message_eq (e : ParseError) :
    e.message = e.headline e.anchor ++
      (e.start.excerpt ++ (e.unexpectedPart ++ (e.expectedPart ++ e.detailsPart))) := by
  simp only [message, headline, List.append_assoc, List.cons_append, List.nil_append]

/-- On the statement's first line, the carets go on behind those under its first token. -/
theorem pointsAlong (hs : e.start.Placed) (ht : t ∈ e.unexpected) (hne : t ≠ e.start)
    (hline : t.lineNumber = e.start.lineNumber) (hbefore : e.start.Before t) : PointsAlong e t := by
  have hcolumn : e.start.column + e.start.width ≤ t.column := by
    rcases hbefore with h | ⟨-, h⟩
    · omega
    · exact h
  have hanchor : e.anchor = t := by
    rw [anchor, Option.mem_def.1 ht]
    exact if_pos hline
  have hpart : e.unexpectedPart =
      caretLine t.value.text (t.column - e.start.column - e.start.width + 1) ++
        ("\nUnexpected ".toList ++ t.value.describe) := by
    rw [unexpectedPart, Option.mem_def.1 ht]
    simp only [hne, hline, if_true, if_false]
    rfl
  have htail : OnNewLine ("\nUnexpected ".toList ++ t.value.describe ++
      (e.expectedPart ++ e.detailsPart)) := onNewLine_cons _
  have hlines := splitAt_excerpt hs.isLine (e.newline_not_mem_headline t)
    (newline_not_mem_caretLine t.value.text (t.column - e.start.column - e.start.width + 1)) htail
  have hspaces : t.column - e.start.column - e.start.width + 1 - 1 =
      t.column - e.start.column - e.start.width := by omega
  have hmessage : e.message = _ := e.message_eq
  rw [hanchor, hpart, List.append_assoc] at hmessage
  rw [← hmessage] at hlines
  refine ⟨hcolumn, by rw [hlines]; rfl, ?_⟩
  rw [hlines, caretLine_eq, caretLine_eq, hspaces, List.append_assoc]
  rfl

/-- A token on a later line has an excerpt behind the one of the statement. -/
theorem pointsBelow (hs : e.start.Placed) (ht : t.Placed) (hu : t ∈ e.unexpected)
    (hline : e.start.lineNumber < t.lineNumber) : PointsBelow e t := by
  have hother : t.lineNumber ≠ e.start.lineNumber := by omega
  have hne : t ≠ e.start := by
    rintro rfl
    exact hother rfl
  have hanchor : e.anchor = e.start := by
    rw [anchor, Option.mem_def.1 hu]
    exact if_neg hother
  have hpart : e.unexpectedPart = '\n' :: (notice t ++ t.excerpt) := by
    rw [unexpectedPart, Option.mem_def.1 hu]
    have hassoc : ∀ a b c d s : Text, '\n' :: a ++ b ++ c ++ d ++ ':' :: s =
        '\n' :: (a ++ b ++ c ++ d ++ [':'] ++ s) := by simp
    simp only [if_neg hne, if_neg hother]
    exact hassoc "Unexpected ".toList t.value.describe " on ".toList t.place t.excerpt
  have hmessage := e.message_eq
  rw [hanchor, hpart, List.cons_append, List.append_assoc] at hmessage
  have hlines := splitAt_excerpt hs.isLine (e.newline_not_mem_headline e.start)
    List.not_mem_nil (onNewLine_cons (notice t ++ (t.excerpt ++ (e.expectedPart ++ e.detailsPart))))
  have hlines' := splitAt_excerpt ht.isLine (newline_not_mem_notice ht)
    List.not_mem_nil e.onNewLine_hints
  rw [List.nil_append] at hlines hlines'
  rw [← hmessage, linesBehind, hlines'] at hlines
  refine ⟨?_, ?_, ?_, ?_, ?_⟩
  · rw [hlines]
    rfl
  · rw [hlines, caretLine_eq, List.append_nil]
    rfl
  · rw [hlines]
    rfl
  · rw [hlines, ht.trimEnd_eq]
    rfl
  · rw [hlines, caretLine_eq t.value.text, List.append_nil (pointed (t.column - 1) _)]
    rfl

end ParseError

theorem text_ne_nil_of_keyword {t : Token} {k : Keyword} (h : t.value = k.value) :
    t.value.text ≠ [] := by
  rw [h]
  cases k <;> decide

theorem mem_of_mem_cutStatement {ts : List Token} {t : Token} (h : t ∈ (cutStatement ts).1) :
    t ∈ ts := by
  rw [← cutStatement_append ts]
  exact List.mem_append_left _ h

theorem exists_tokens_of_rejected {source : Text} {r : Rejection}
    (h : parseSource source = .error (.rejected r)) :
    ∃ ts, tokenize source = .ok ts ∧ parse ts = .error r := by
  rcases Except.bind_eq_error.1 h with h | ⟨ts, hts, h⟩
  · obtain ⟨_, -, hlex⟩ := Except.mapError_eq_error.1 h
    cases hlex
  · obtain ⟨r', hr, heq⟩ := Except.mapError_eq_error.1 h
    cases heq
    exact ⟨ts, Except.mapError_eq_ok.1 hts, hr⟩

/-- A parse error points at tokens of the source. It names the keyword that begins the statement,
unless no statement begins where it points, and what is unexpected is not in front of that. -/
theorem parse_diagnostics {source : Text} {e : ParseError}
    (h : parseSource source = .error (.rejected (.parse e))) :
    ∃ ts, tokenize source = .ok ts ∧ e.start ∈ ts ∧ 1 ≤ e.start.column ∧
      (e.fault = .unexpectedToken ∧ e.unexpected = some e.start ∧ e.kind = .unknown ∨
        e.fault ≠ .unexpectedToken ∧ e.unexpected ≠ some e.start ∧
          ∃ k : Keyword, e.start.value = k.value ∧ e.kind = k.kind) ∧
      ∀ t ∈ e.unexpected, t ∈ ts ∧ 1 ≤ t.column ∧
        (e.start.lineNumber < t.lineNumber ∨
          e.start.lineNumber = t.lineNumber ∧ e.start.column ≤ t.column) ∧
        (t ≠ e.start → t.lineNumber = e.start.lineNumber → e.PointsAlong t) ∧
        (e.start.lineNumber < t.lineNumber → e.PointsBelow t) := by
  obtain ⟨ts, hts, hparse⟩ := exists_tokens_of_rejected h
  have hplaced := placed_of_tokenize hts
  have hpairwise : ts.Pairwise Token.Before := by
    rw [(tokenize_eq_ok_iff.1 hts).1]
    exact pairwise_tokens source
  refine ⟨ts, hts, ?_⟩
  cases parse_eq_error_iff.1 hparse with
  | @stray pre post t ops hpre hb hk =>
    have ht : t ∈ pre ++ t :: post := by simp
    refine ⟨ht, (hplaced t ht).column_pos, .inl ⟨rfl, rfl, rfl⟩, ?_⟩
    rintro _ ⟨⟩
    refine ⟨ht, (hplaced t ht).column_pos, .inr ⟨rfl, Int.le_refl _⟩, ?_, ?_⟩
    · exact fun hne => absurd rfl hne
    · exact fun hlt => absurd hlt (Int.lt_irrefl _)
  | @statement pre post start k ops _ hpre hk hop =>
    have hconcerns := Statement.concerns_of_operation rfl hop
    obtain rfl : e.start = start := hconcerns.start_eq
    have hbehind : ∀ t ∈ e.unexpected, t ∈ post := fun t ht =>
      mem_of_mem_cutStatement (hconcerns.mem t ht)
    have hbefore : ∀ t ∈ e.unexpected, e.start.Before t := fun t ht =>
      List.rel_of_pairwise_cons (List.pairwise_append.1 hpairwise).2.1 (hbehind t ht)
    have hne : ∀ t ∈ e.unexpected, e.start ≠ t := fun t ht =>
      (hbefore t ht).ne (text_ne_nil_of_keyword hk)
    have hs : e.start ∈ pre ++ e.start :: post := by simp
    have hfault := Statement.fault_ne_unexpectedToken hop
    refine ⟨hs, (hplaced _ hs).column_pos, .inr ⟨hfault, ?_, k, hk, hconcerns.kind_eq⟩, ?_⟩
    · exact fun hunexpected => hne _ hunexpected rfl
    · intro t ht
      have hmem : t ∈ pre ++ e.start :: post :=
        List.mem_append_right _ (List.mem_cons_of_mem _ (hbehind t ht))
      refine ⟨hmem, (hplaced t hmem).column_pos, ?_, fun hdiffer hline => ?_, fun hline => ?_⟩
      · rcases hbefore t ht with hline | ⟨hline, hcolumn⟩
        · exact .inl hline
        · exact .inr ⟨hline, by omega⟩
      · exact ParseError.pointsAlong (hplaced _ hs) ht hdiffer hline (hbefore t ht)
      · exact ParseError.pointsBelow (hplaced _ hs) (hplaced t hmem) ht hline

/-- `Show`, and a full stop on the next line. -/
def emptyShowTokens : List Token :=
  [⟨Keyword.display.value, "Show\n".toList, 1, 1⟩, ⟨.blank, "Show\n".toList, 1, 5⟩,
    ⟨terminator .plain, ['.'], 2, 1⟩]

theorem parse_emptyShow :
    ∃ e, parse emptyShowTokens = .error (.parse e) ∧ e.start.lineNumber = 1 ∧
      e.unexpected = some ⟨terminator .plain, ['.'], 2, 1⟩ := by
  refine ⟨?e, ?eq, ?_⟩
  case eq =>
    rw [emptyShowTokens, parse_cons_keyword (k := .display) rfl]
    rfl
  exact ⟨rfl, rfl⟩

theorem tokenize_emptyShow : tokenize "Show\n.".toList = .ok emptyShowTokens :=
  tokenize_eq_ok_iff.2 ⟨by decide +kernel, by decide +kernel⟩

theorem parse_diagnostics_emptyShow :
    ∃ e, parseSource "Show\n.".toList = .error (.rejected (.parse e)) ∧
      ∃ t ∈ e.unexpected, e.start.lineNumber < t.lineNumber ∧ e.PointsBelow t := by
  obtain ⟨e, hparse, hline, hunexpected⟩ := parse_emptyShow
  have he : parseSource "Show\n.".toList = .error (.rejected (.parse e)) := by
    rw [parseSource, tokenize_emptyShow]
    simp only [Except.mapError_ok, bind, Except.bind, hparse, Except.mapError_error]
  obtain ⟨ts, -, -, -, -, hpoints⟩ := parse_diagnostics he
  obtain ⟨-, -, -, -, hbelow⟩ := hpoints _ hunexpected
  have hlater : e.start.lineNumber < 2 := by omega
  exact ⟨e, he, _, hunexpected, hlater, hbelow hlater⟩

end Roster
