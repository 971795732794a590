import Roster.Proofs.Respacing

/-! Which sources have tokens only. Every source with tokens is written in blanks, letters and
marks, each mark being a token by itself. In return a text of such characters has tokens only,
unless a letter follows a full stop, or a narrow space or an attached letter sticks to its
neighbours. -/
namespace Roster
namespace Text
open WordBreak

/-- What a token of the grammar can be the text of: blanks, one mark, or letters. -/
def IsTokenText (s : Text) : Prop :=
  (∀ c ∈ s, isBlank c = true) ∨ (∃ c, s = [c] ∧ isMark [c] = true) ∨ ∀ c ∈ s, isLetter c = true

/-- Texts of blanks, letters and marks that keep away from the exceptions of the word rule. -/
structure Regular (s : Text) : Prop where
  chars : ∀ c ∈ s, IsSourceChar c
  period : s.IsChain fun c d => c = '.' → isLetter d = false
  narrow : '\u202F' ∉ s
  extend : ∀ c ∈ s, isLetter c = true → ofChar c ≠ .extend

instance (c : Char) : Decidable (IsSourceChar c) := inferInstanceAs (Decidable (_ ∨ _ ∨ _))

instance (s : Text) : Decidable (Regular s) :=
  decidable_of_iff
    (s.all (fun c => decide (IsSourceChar c ∧ c ≠ '\u202F' ∧
        (isLetter c = true → ofChar c ≠ .extend))) = true ∧
      s.IsChain fun c d => c = '.' → isLetter d = false) <| by
    simp only [List.all_eq_true, decide_eq_true_eq]
    refine ⟨fun ⟨hall, hchain⟩ => ⟨fun c hc => (hall c hc).1, hchain,
      fun hc => (hall _ hc).2.1 rfl, fun c hc => (hall c hc).2.2⟩, fun h => ⟨?_, h.period⟩⟩
    exact fun c hc => ⟨h.chars c hc, fun heq => h.narrow (heq ▸ hc), h.extend c hc⟩

/-- Two blanks or two letters: what a piece can go on with. -/
def AreAlike (c d : Char) : Prop :=
  isBlank c = true ∧ isBlank d = true ∨ isLetter c = true ∧ isLetter d = true

theorem isBlank_of_isMark {c : Char} (h : isMark [c] = true) : isBlank c = false := by
  rcases eq_of_isMark h with rfl | rfl | rfl | rfl <;> decide

namespace WordBreak

theorem isLetter_ofChar_of_isMark {c : Char} (h : isMark [c] = true) :
    (ofChar c).isLetter = false := by
  rcases ofChar_of_isMark h with hc | hc | hc <;> simp [hc, WordBreak.isLetter]

/-- What the rule may see in a mark, with what is known if it is a full stop. -/
theorem ofChar_mark {c : Char} (h : isMark [c] = true) {p : Prop} (hp : c = '.' → p) :
    ofChar c = .other ∨ ofChar c = .midNum ∨ ofChar c = .midNumLet ∧ p := by
  rcases eq_of_isMark h with rfl | rfl | rfl | rfl
  · exact .inr (.inl ofChar_comma)
  · exact .inr (.inr ⟨ofChar_period, hp rfl⟩)
  · exact .inl ofChar_exclamation
  · exact .inl ofChar_question

/-- Letters and marks behind a mark; a full stop would join a letter to a letter in front. -/
theorem mark_joins {before l r after : WordBreak}
    (hl : l = .other ∨ l = .midNum ∨ l = .midNumLet ∧ r.isLetter = false)
    (hr : r.isInk = true) : joins before l r after = false := by
  have hr' : r ≠ .numeric ∧ r ≠ .extendNumLet := by
    revert hr
    cases r <;> simp [isInk]
  rcases hl with rfl | rfl | ⟨rfl, hletter⟩
  · simp [joins, WordBreak.isLetter, isWordInner, isNumberInner, isConnected,
      Bool.beq_eq_decide_eq, hr']
  · simp [joins, WordBreak.isLetter, isWordInner, isNumberInner, isConnected,
      Bool.beq_eq_decide_eq, hr']
  · simp [joins, hletter, show WordBreak.isLetter .midNumLet = false from rfl, isConnected,
      Bool.beq_eq_decide_eq, hr']

end WordBreak

namespace Regular

variable {s : Text}

theorem of_append {lead tail : Text} (h : Regular (lead ++ (s ++ tail))) : Regular s where
  chars c hc := h.chars c (by simp [hc])
  period := h.period.right_of_append.left_of_append
  narrow hmem := h.narrow (by simp [hmem])
  extend c hc := h.extend c (by simp [hc])

theorem trim (h : Regular s) : Regular (s.trim isBlank) := by
  obtain ⟨lead, tail, hs, -, -⟩ := exists_trim isBlank s
  rw [hs] at h
  exact h.of_append

theorem ne_extend (h : Regular s) : ∀ c ∈ s, ofChar c ≠ .extend := by
  intro c hc hext
  rcases h.chars c hc with hblank | hletter | hmark
  · have hattached := (isAttached_of_isBlank hblank).1
    rw [hext] at hattached
    cases hattached
  · exact h.extend c hc hletter hext
  · rcases ofChar_of_isMark hmark with hclass | hclass | hclass <;>
      · rw [hext] at hclass
        cases hclass

theorem parted (h : Regular s) : Parted s := by
  refine parted_of_all (List.all_eq_true.2 fun c hc => ?_)
  have hne : c ≠ '\u202F' := fun heq => h.narrow (heq ▸ hc)
  simp [hne, h.ne_extend c hc]

theorem isAttached_eq_false (h : Regular s) : ∀ c ∈ s, (ofChar c).isAttached = false := by
  intro c hc
  by_contra hattached
  rw [Bool.not_eq_false] at hattached
  have hink := (h.chars c hc).isInk (isBlank_of_isAttached hattached)
  exact h.ne_extend c hc (hink.eq_extend hattached)

theorem class_isInk (h : Regular s) {c : Char} (hc : c ∈ s) (hblank : isBlank c = false) :
    (ofChar c).isInk = true :=
  (ofChar_of_isInk ((h.chars c hc).isInk hblank)).resolve_right (h.ne_extend c hc)

/-- Behind a full stop no letter follows, whatever the rule passes over. -/
theorem isLetter_behind_period {u v : Text} (h : Regular (u ++ '.' :: v)) :
    (ofHead (skipAttached v)).isLetter = false := by
  cases v with
  | nil => rfl
  | cons c v =>
    have hc := (List.isChain_append_cons_cons.1 h.period).2.1 rfl
    rw [skipAttached_of_not_attached (h.isAttached_eq_false c (by simp)), ofHead_cons]
    rcases h.chars c (by simp) with hblank | hletter | hmark
    · exact (isAttached_of_isBlank hblank).2.1
    · rw [hc] at hletter
      cases hletter
    · exact isLetter_ofChar_of_isMark hmark

/-- The rule cuts on both sides of a mark, blanks apart. -/
theorem wordRule_of_isMark {u v : Text} {p n : Char} (h : Regular (u ++ p :: n :: v))
    (hp : isBlank p = false) (hn : isBlank n = false)
    (hmark : isMark [p] = true ∨ isMark [n] = true) (before : Text) :
    wordRule (p :: before) (n :: v) = true := by
  have hpclass := h.class_isInk (c := p) (by simp) hp
  have hnclass := h.class_isInk (c := n) (by simp) hn
  obtain ⟨hline, hzwj, -, -⟩ := isLineEnd_of_isInk ((h.chars p (by simp)).isInk hp)
  rw [wordRule_of_isOrdinary hline hzwj (isOrdinary_of_isInk hnclass).1,
    skipAttached_of_not_attached (isOrdinary_of_isInk hpclass).2, ofHead_cons, Bool.not_eq_true']
  rcases hmark with hmark | hmark
  · refine mark_joins (ofChar_mark hmark ?_) hnclass
    rintro rfl
    have hafter := h.isLetter_behind_period
    rwa [skipAttached_of_not_attached (isOrdinary_of_isInk hnclass).2, ofHead_cons] at hafter
  · have hne : ofChar p ≠ .numeric := by
      intro hclass
      rw [hclass] at hpclass
      cases hpclass
    refine joins_mark hne (ofChar_mark hmark ?_)
    rintro rfl
    rw [List.append_cons] at h
    exact h.isLetter_behind_period

/-- Where the rule does not cut, blank stands beside blank or letter beside letter. -/
theorem areAlike {u v : Text} {p n : Char} (h : Regular (u ++ p :: n :: v))
    (hrule : wordRule (p :: u.reverse) (n :: v) = false) : AreAlike p n := by
  have hblanks : isBlank p = isBlank n := by
    by_contra hne
    have hcut := h.parted.cutsAtBlanks h.chars u p n v rfl hne
    rw [List.append_nil, hrule] at hcut
    cases hcut
  cases hp : isBlank p with
  | true => exact .inl ⟨hp, hblanks ▸ hp⟩
  | false =>
    have hn : isBlank n = false := hblanks ▸ hp
    have hmarks : ¬(isMark [p] = true ∨ isMark [n] = true) := by
      intro hmark
      rw [h.wordRule_of_isMark hp hn hmark] at hrule
      cases hrule
    rw [not_or] at hmarks
    have hletter : ∀ c ∈ u ++ p :: n :: v, isBlank c = false → isMark [c] ≠ true →
        isLetter c = true := by
      intro c hc hblank hmark
      rcases h.chars c hc with hb | hl | hm
      · rw [hb] at hblank
        cases hblank
      · exact hl
      · exact absurd hm hmark
    exact .inr ⟨hletter p (by simp) hp hmarks.1, hletter n (by simp) hn hmarks.2⟩

end Regular

/-- A text whose neighbours are alike is all blanks or all letters, unless it is one character. -/
theorem isTokenText_of_isChain {s : Text} (hs : ∀ c ∈ s, IsSourceChar c)
    (h : s.IsChain AreAlike) : IsTokenText s := by
  induction h with
  | nil => exact .inl (by simp)
  | singleton c =>
    rcases hs c (by simp) with hblank | hletter | hmark
    · exact .inl (by simpa using hblank)
    · exact .inr (.inr (by simpa using hletter))
    · exact .inr (.inl ⟨c, rfl, hmark⟩)
  | @cons_cons c d s halike _ ih =>
    -- the first two are of one sort, so the rest is no mark and not of the other sort
    rw [List.forall_mem_cons] at hs
    rcases halike with ⟨hc, hd⟩ | ⟨hc, hd⟩
    · refine .inl (List.forall_mem_cons.2 ⟨hc, ?_⟩)
      rcases ih hs.2 with hblanks | ⟨e, he, hmark⟩ | hletters
      · exact hblanks
      · obtain ⟨rfl, -⟩ := List.cons.inj he
        rw [isBlank_of_isMark hmark] at hd
        cases hd
      · have hletter := hletters d (by simp)
        rw [isLetter_of_isBlank hd] at hletter
        cases hletter
    · refine .inr (.inr (List.forall_mem_cons.2 ⟨hc, ?_⟩))
      rcases ih hs.2 with hblanks | ⟨e, he, hmark⟩ | hletters
      · rw [isLetter_of_isBlank (hblanks d (by simp))] at hd
        cases hd
      · obtain ⟨rfl, -⟩ := List.cons.inj he
        rw [isLetter_of_isMark hmark] at hd
        cases hd
      · exact hletters

/-- A regular text is cut into texts of tokens. -/
theorem Regular.isTokenText {s : Text} (h : Regular s) : ∀ piece ∈ words s, IsTokenText piece := by
  intro piece hpiece
  obtain ⟨u, v, hs, hunbroken⟩ := (isCut_cut wordRule_nil [] s).unbroken_of_mem hpiece
  rw [flatten_cut] at hs
  refine isTokenText_of_isChain (fun c hc => h.chars c (mem_of_mem_cut hpiece hc)) ?_
  rw [List.isChain_iff_forall_rel_of_append_cons_cons]
  rintro p n x y rfl
  have hrule := hunbroken (x ++ [p]) (n :: y) (by simp) (by simp) (by simp)
  have hsplit : s = (u ++ x) ++ p :: n :: (y ++ v) := by simp [hs]
  rw [hsplit] at h
  exact h.areAlike (by simpa using hrule)

/-- The piece that a character of a text stands in. -/
theorem exists_piece {ps : List Text} {u v : Text} {c : Char} (h : ps.flatten = u ++ c :: v) :
    ∃ front x y after, ps = front ++ (x ++ c :: y) :: after ∧ u = front.flatten ++ x ∧
      v = y ++ after.flatten := by
  rcases List.flatten_eq_append_iff.1 h with ⟨front, rest, rfl, rfl, hrest⟩ |
    ⟨front, x, d, y, after, rfl, rfl, hrest⟩
  · obtain ⟨empty, y, after, rfl, hempty, rfl⟩ := List.flatten_eq_cons_iff.1 hrest.symm
    refine ⟨front ++ empty, [], y, after, by simp, ?_, rfl⟩
    rw [List.flatten_append, List.flatten_eq_nil_iff.2 hempty, List.append_nil, List.append_nil]
  · obtain ⟨rfl, rfl⟩ := List.cons.inj hrest
    exact ⟨front, x, y, after, rfl, rfl, rfl⟩

/-- A mark is a token text by itself only. -/
theorem IsTokenText.of_isMark {x y : Text} {c : Char} (h : IsTokenText (x ++ c :: y))
    (hmark : isMark [c] = true) : x = [] ∧ y = [] := by
  rcases h with hblanks | ⟨d, hd, -⟩ | hletters
  · have hblank := hblanks c (by simp)
    rw [isBlank_of_isMark hmark] at hblank
    cases hblank
  · have hlength := congrArg List.length hd
    simp only [List.length_append, List.length_cons, List.length_nil] at hlength
    exact ⟨List.length_eq_zero_iff.1 (by omega), List.length_eq_zero_iff.1 (by omega)⟩
  · have hletter := hletters c (by simp)
    rw [isLetter_of_isMark hmark] at hletter
    cases hletter

end Text

open Text

theorem kind_classify_ne_unknown_iff {s : Text} :
    (classify s).kind ≠ .unknown ↔ IsTokenText s := by
  refine ⟨classify_cases, fun h => ?_⟩
  rcases h with hblanks | ⟨c, rfl, hmark⟩ | hletters
  · simp [classify_of_blanks hblanks, TokenValue.blank]
  · simp [classify, isBlank_of_isMark hmark, hmark, TokenValue.punctuation]
  · by_cases hs : s = []
    · simp [hs, classify, TokenValue.blank]
    · simp [classify_of_letters hs hletters, TokenValue.word]

theorem classify_of_not_isTokenText {s : Text} (h : ¬IsTokenText s) : classify s = .unknown s := by
  have hkind : (classify s).kind = .unknown := by
    rwa [← kind_classify_ne_unknown_iff, not_not] at h
  unfold classify at hkind ⊢
  split at hkind <;> rename_i hblank
  · cases hkind
  · rw [if_neg hblank]
    split at hkind <;> rename_i hmark
    · cases hkind
    · rw [if_neg hmark]
      split at hkind <;> rename_i hletter
      · cases hkind
      · rw [if_neg hletter]

/-- A text with only known segments. -/
theorem tokenize_eq_ok_iff_isTokenText {source : Text} {ts : List Token} :
    tokenize source = .ok ts ↔ ts = (segments source).map Token.ofSegment ∧
      ∀ piece ∈ (source.trim isBlank).words, IsTokenText piece := by
  rw [tokenize_eq_ok_iff, sourceValues, List.forall_mem_map]
  simp only [kind_classify_ne_unknown_iff]

theorem map_text_segments (source : Text) :
    (segments source).map Segment.text = (source.trim isBlank).words := by
  rw [segments, map_text_ofLines, flatMap_words_lines]

/-- Tokens of a source that is spelled in blanks, letters and marks. Between the blanks at its
ends, a mark is a token of its own, with what stands in front of it and behind it on its sides. -/
structure SpelledOut (source : Text) (ts : List Token) : Prop where
  chars : ∀ c ∈ source, IsSourceChar c
  word : ∀ t ∈ ts, t.value.kind = .word → t.value.text ≠ [] ∧ ∀ c ∈ t.value.text, isLetter c = true
  mark : ∀ u c v, source = u ++ c :: v → isMark [c] = true →
    ∃ front s after, segments source = front ++ s :: after ∧
      (front.map Segment.text).flatten = u.dropWhile isBlank ∧ s.text = [c] ∧
      (after.map Segment.text).flatten = trimEnd isBlank v ∧
      ts = front.map Token.ofSegment ++
        ⟨.punctuation [c], s.line, s.lineNumber, s.column⟩ :: after.map Token.ofSegment

theorem spelledOut_of_tokenize {source : Text} {ts : List Token} (h : tokenize source = .ok ts) :
    SpelledOut source ts := by
  obtain ⟨rfl, hpieces⟩ := tokenize_eq_ok_iff_isTokenText.1 h
  obtain ⟨-, hknown⟩ := tokenize_eq_ok_iff.1 h
  refine ⟨?chars, ?word, ?mark⟩
  case chars =>
    obtain ⟨lead, tail, hs, hlead, htail⟩ := exists_trim isBlank source
    rw [hs, List.forall_mem_append, List.forall_mem_append]
    exact ⟨fun c hc => .inl (hlead c hc), (sourceChars_of_words hknown).1,
      fun c hc => .inl (htail c hc)⟩
  case word =>
    rw [List.forall_mem_map]
    intro s _ hkind
    obtain ⟨hne, hletters, hvalue⟩ := letters_of_classify hkind
    rw [Token.ofSegment, hvalue]
    exact ⟨hne, hletters⟩
  case mark =>
    rintro u c v rfl hmark
    have hflat : ((segments (u ++ c :: v)).map Segment.text).flatten =
        u.dropWhile isBlank ++ c :: trimEnd isBlank v := by
      rw [map_text_segments, flatten_words, trim_append_cons (isBlank_of_isMark hmark)]
    obtain ⟨fronts, x, y, afters, hsplit, hu, hv⟩ := exists_piece hflat
    have hpiece : IsTokenText (x ++ c :: y) := by
      apply hpieces
      rw [← map_text_segments, hsplit]
      simp
    obtain ⟨rfl, rfl⟩ := hpiece.of_isMark hmark
    obtain ⟨front, rest, hsegments, rfl, hrest⟩ := List.map_eq_append_iff.1 hsplit
    obtain ⟨s, after, rfl, hs, rfl⟩ := List.map_eq_cons_iff.1 hrest
    have hvalue : classify s.text = .punctuation [c] := by
      rw [hs]
      simp [classify, isBlank_of_isMark hmark, hmark]
    refine ⟨front, s, after, hsegments, by simpa using hu.symm, hs, by simpa using hv.symm, ?_⟩
    rw [hsegments, List.map_append, List.map_cons, Token.ofSegment, hvalue]

/-- The error is about the first segment that is no token of the grammar. -/
theorem tokenize_eq_error_iff_segments {source : Text} {e : LexError} :
    tokenize source = .error e ↔ ∃ front s after, segments source = front ++ s :: after ∧
      (∀ u ∈ front, IsTokenText u.text) ∧ ¬IsTokenText s.text ∧
        e.token = ⟨.unknown s.text, s.line, s.lineNumber, s.column⟩ := by
  have hunknown : ∀ s : Segment, (Token.ofSegment s).value.kind ≠ .unknown ↔ IsTokenText s.text :=
    fun s => kind_classify_ne_unknown_iff
  rw [tokenize_eq_error_iff, List.find?_map, Option.map_eq_some_iff]
  constructor
  · rintro ⟨s, hfind, he⟩
    obtain ⟨hs, front, after, hsegments, hfront⟩ := List.find?_eq_some_iff_append.1 hfind
    have hnot : ¬IsTokenText s.text := by
      rw [← hunknown, not_not]
      simpa using hs
    refine ⟨front, s, after, hsegments, fun u hu => (hunknown u).1 (by simpa using hfront u hu),
      hnot, ?_⟩
    rw [← he, Token.ofSegment, classify_of_not_isTokenText hnot]
  · rintro ⟨front, s, after, hsegments, hfront, hs, he⟩
    refine ⟨s, List.find?_eq_some_iff_append.2 ⟨?_, front, after, hsegments, fun u hu => ?_⟩, ?_⟩
    · rw [← hunknown, not_not] at hs
      simpa using hs
    · simpa using (hunknown u).2 (hfront u hu)
    · rw [he, Token.ofSegment, classify_of_not_isTokenText hs]

/-- What has tokens, and where the tokens fail. -/
theorem tokenize_alphabet (source : Text) :
    (∀ ts, tokenize source = .ok ts → SpelledOut source ts) ∧
      (Regular source → ∃ ts, tokenize source = .ok ts) ∧
      ∀ e, tokenize source = .error e ↔ ∃ front s after, segments source = front ++ s :: after ∧
        (∀ u ∈ front, IsTokenText u.text) ∧ ¬IsTokenText s.text ∧
          e.token = ⟨.unknown s.text, s.line, s.lineNumber, s.column⟩ :=
  ⟨fun _ => spelledOut_of_tokenize,
    fun h => ⟨_, tokenize_eq_ok_iff_isTokenText.2 ⟨rfl, h.trim.isTokenText⟩⟩,
    fun _ => tokenize_eq_error_iff_segments⟩

/-- A regular source, and one with a letter behind a full stop. -/
theorem alphabet_initials :
    Regular " Show Ann,\nLee? ".toList ∧
      (∃ ts, tokenize " Show Ann,\nLee? ".toList = .ok ts ∧
        SpelledOut " Show Ann,\nLee? ".toList ts) ∧
      ∃ e, tokenize "Show A.L.".toList = .error e ∧ e.token.value = .unknown "A.L".toList ∧
        ∃ front s after, segments "Show A.L.".toList = front ++ s :: after ∧
          (∀ u ∈ front, IsTokenText u.text) ∧ ¬IsTokenText s.text ∧
            e.token = ⟨.unknown s.text, s.line, s.lineNumber, s.column⟩ := by
  have hregular : Regular " Show Ann,\nLee? ".toList := by decide +kernel
  obtain ⟨hspelled, hok, -⟩ := tokenize_alphabet " Show Ann,\nLee? ".toList
  obtain ⟨ts, hts⟩ := hok hregular
  obtain ⟨-, -, herror⟩ := tokenize_alphabet "Show A.L.".toList
  have hfails : tokenize "Show A.L.".toList =
      .error ⟨⟨.unknown "A.L".toList, "Show A.L.".toList, 1, 6⟩⟩ := by decide +kernel
  exact ⟨hregular, ⟨ts, hts, hspelled ts hts⟩, _, hfails, rfl, (herror _).1 hfails⟩

end Roster
