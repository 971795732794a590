import Roster.Proofs.StatementGrammar
import Roster.Proofs.WordContext

/-! From a source to operations through the grammar. A line feed parts words whatever surrounds it,
so a source may be cut at once, and its pieces are the tokens that the grammar speaks of. -/
namespace Roster
namespace Text
open WordBreak

/-- Texts, nearest character first, behind which a line begins. -/
def BeginsLine (before : Text) : Prop := before = [] ∨ ∃ rest, before = '\n' :: rest

theorem BeginsLine.loneHead {before : Text} (h : BeginsLine before) : LoneHead before := by
  rcases h with rfl | ⟨rest, rfl⟩
  · simp [LoneHead]
  · simp [LoneHead, ofChar_newline, isLone]

theorem BeginsLine.wordRule_append {before : Text} (h : BeginsLine before) {s : Text}
    (hs : s ≠ []) (after : Text) : wordRule (s ++ before) after = wordRule s after := by
  cases after with
  | nil => rw [wordRule_nil, wordRule_nil]
  | cons n after =>
    have hnone : LoneHead [] := by simp [LoneHead]
    have hrule := wordRule_context hs h.loneHead hnone n after
    rwa [List.append_nil] at hrule

/-- A rule that looks ahead does not look past a line feed. -/
theorem wordRule_line_append {n : Char} {line : Text} (h : '\n' ∈ n :: line) (before rest : Text) :
    wordRule before (n :: (line ++ rest)) = wordRule before (n :: line) := by
  cases before with
  | nil => rfl
  | cons p before =>
    by_cases hn : n = '\n'
    · subst hn
      simp [wordRule, ofChar_newline, isLineEnd]
    · have hmem : '\n' ∈ line := by simpa [Ne.symm hn] using h
      obtain ⟨c, t, -, -, hrest, hline⟩ := skipAttached_append
        ⟨'\n', hmem, by simp [ofChar_newline, isAttached]⟩ rest
      simp only [wordRule, hrest, hline, ofHead]

/-- A line, which ends in a line feed unless nothing follows it, is cut as it is on its own. -/
theorem isCut_words_line {before line rest : Text} (hb : BeginsLine before)
    (hrest : rest = [] ∨ ∃ init, line = init ++ ['\n']) :
    IsCut wordRule before (words line) rest := by
  refine (isCut_congr fun u v heq hu => ?_).2 (isCut_cut wordRule_nil [] line)
  rw [flatten_words] at heq
  rw [hb.wordRule_append (by simpa using hu), List.append_nil, List.append_nil]
  rcases hrest with rfl | ⟨init, rfl⟩
  · rw [List.append_nil]
  · rcases List.eq_nil_or_concat v with rfl | ⟨v', c, hv⟩
    · rw [List.append_nil] at heq
      rw [← heq, List.reverse_append, wordRule_nil]
      exact wordRule_newline _ _
    · rw [List.concat_eq_append] at hv
      subst hv
      rw [← List.append_assoc] at heq
      obtain ⟨-, hc⟩ := List.append_inj' heq rfl
      obtain rfl := (List.cons.inj hc).1
      cases v' with
      | nil => exact wordRule_line_append (by simp) _ _
      | cons n v' => exact wordRule_line_append (by simp) _ _

theorem flatten_flatMap_words (ls : List Text) : (ls.flatMap words).flatten = ls.flatten := by
  induction ls with
  | nil => rfl
  | cons l ls ih => simp [ih]

theorem isCut_words_lines {before : Text} {ls : List Text}
    (h : IsCut lineRule.orEnd before ls []) {before' : Text} (hb : BeginsLine before') :
    IsCut wordRule before' (ls.flatMap words) [] := by
  induction ls generalizing before before' with
  | nil => simp
  | cons l ls ih =>
    obtain ⟨hl, -, hr, hls⟩ := h
    obtain ⟨init, c, rfl⟩ := (List.eq_nil_or_concat l).resolve_left hl
    simp only [List.concat_eq_append, CutRule.orEnd, lineRule, List.append_nil, Bool.or_eq_true,
      List.isEmpty_iff, List.reverse_append, List.reverse_singleton, List.cons_append,
      List.nil_append, List.head?_cons, beq_iff_eq, Option.some.injEq] at hr hls ⊢
    rw [List.flatMap_cons, isCut_append, flatten_flatMap_words, flatten_words, List.append_nil]
    refine ⟨isCut_words_line hb (hr.imp_right fun hc => ⟨init, by rw [hc]⟩), ?_⟩
    by_cases hc : c = '\n'
    · subst hc
      exact ih hls (.inr ⟨_, by rw [List.reverse_append]; rfl⟩)
    · have hnil : ls = [] := by
        cases ls with
        | nil => rfl
        | cons l ls =>
          have hl := List.flatten_eq_nil_iff.1 (hr.resolve_right hc) l (by simp)
          exact absurd hl hls.1
      simp [hnil]

/-- The words of a text are the words of its lines. -/
theorem flatMap_words_lines (s : Text) : s.lines.flatMap words = words s := by
  have h := isCut_words_lines (isCut_lines s) (.inl rfl)
  rw [← h.eq_cut, flatten_flatMap_words, lines, flatten_cut, words]

end Text

theorem map_text_place (line : Text) (lineNumber column : Nat) (pieces : List Text) :
    (Segment.place line lineNumber column pieces).map Segment.text = pieces := by
  induction pieces generalizing column with
  | nil => rfl
  | cons piece pieces ih => simp [Segment.place, ih]

theorem map_text_ofLines (lineNumber : Nat) (ls : List Text) :
    (Segment.ofLines lineNumber ls).map Segment.text = ls.flatMap Text.words := by
  induction ls generalizing lineNumber with
  | nil => rfl
  | cons l ls ih => simp [Segment.ofLines, map_text_place, ih]

/-- The values of a source's tokens. -/
def sourceValues (source : Text) : List TokenValue :=
  (source.trim Text.isBlank).words.map classify

theorem map_value_segments (source : Text) :
    ((segments source).map Token.ofSegment).map Token.value = sourceValues source := by
  rw [sourceValues, ← Text.flatMap_words_lines, ← map_text_ofLines 1, List.map_map, List.map_map]
  rfl

theorem map_classify_segments (source : Text) :
    (segments source).map (fun s => classify s.text) = sourceValues source := by
  rw [← map_value_segments, List.map_map]
  rfl

theorem tokenize_eq_ok_iff {source : Text} {ts : List Token} :
    tokenize source = .ok ts ↔
      ts = (segments source).map Token.ofSegment ∧
        ∀ v ∈ sourceValues source, v.kind ≠ .unknown := by
  rw [← map_value_segments, tokenize, List.forall_mem_map]
  split
  next t h =>
    have hmem := List.mem_of_find?_eq_some h
    have hkind : t.value.kind = .unknown := by simpa using List.find?_some h
    constructor
    · intro h
      cases h
    · intro h
      exact absurd hkind (h.2 t hmem)
  next h =>
    have hnone : ∀ t ∈ (segments source).map Token.ofSegment, t.value.kind ≠ .unknown := by
      simpa using h
    constructor
    · intro h
      exact ⟨(Except.ok.inj h).symm, hnone⟩
    · rintro ⟨rfl, -⟩
      rfl

/-- The error is about the first token of unknown class. -/
theorem tokenize_eq_error_iff {source : Text} {e : LexError} :
    tokenize source = .error e ↔
      ((segments source).map Token.ofSegment).find? (fun t => t.value.kind = .unknown) =
        some e.token := by
  rw [tokenize]
  cases ((segments source).map Token.ofSegment).find? fun t => t.value.kind = .unknown with
  | none => simp
  | some t =>
    rw [Except.error.injEq, Option.some_inj]
    exact ⟨congrArg LexError.token, congrArg LexError.mk⟩

theorem isLetter_of_isMark {c : Char} (h : isMark [c] = true) : Text.isLetter c = false := by
  have hmarks : (",.!?".toList.all fun c => !Text.isLetter c) = true := by decide
  simpa using List.all_eq_true.1 hmarks c (List.contains_iff_mem.1 h)

theorem classify_of_letters {s : Text} (hne : s ≠ []) (h : ∀ c ∈ s, Text.isLetter c = true) :
    classify s = .word s := by
  obtain ⟨c, s, rfl⟩ := List.exists_cons_of_ne_nil hne
  have hc := h c (by simp)
  have hblank : (c :: s).all Text.isBlank = false := by
    rw [List.all_cons, Bool.and_eq_false_imp]
    intro hb
    rw [Text.isLetter_of_isBlank hb] at hc
    cases hc
  have hmark : isMark (c :: s) = false := by
    cases s with
    | nil =>
      rw [Bool.eq_false_iff]
      intro hm
      rw [isLetter_of_isMark hm] at hc
      cases hc
    | cons d s => rfl
  rw [classify, hblank, hmark, List.all_eq_true.2 h]
  rfl

/-- A letter and anything else together are no token of the grammar. -/
theorem classify_kind_eq_unknown {s : Text} {c d : Char} (hc : c ∈ s) (hd : d ∈ s)
    (hletter : Text.isLetter c = true) (hother : Text.isLetter d = false) :
    (classify s).kind = .unknown := by
  have hblank : s.all Text.isBlank = false := by
    rw [Bool.eq_false_iff, Ne, List.all_eq_true]
    intro hb
    rw [Text.isLetter_of_isBlank (hb c hc)] at hletter
    cases hletter
  have hmark : isMark s = false := by
    rcases s with _ | ⟨x, _ | ⟨y, s⟩⟩
    · rfl
    · rw [List.mem_singleton.1 hc, ← List.mem_singleton.1 hd, hother] at hletter
      cases hletter
    · rfl
  have hletters : s.all Text.isLetter = false := by
    rw [Bool.eq_false_iff, Ne, List.all_eq_true]
    intro hl
    rw [hl d hd] at hother
    cases hother
  rw [classify, hblank, hmark, hletters]
  rfl

theorem letters_of_classify {s : Text} (h : (classify s).kind = .word) :
    s ≠ [] ∧ (∀ c ∈ s, Text.isLetter c = true) ∧ classify s = .word s := by
  rw [classify] at h ⊢
  split at h
  next => cases h
  next hb =>
    split at h
    next => cases h
    next hm =>
      split at h
      next hl =>
        refine ⟨?_, List.all_eq_true.1 hl, by simp [hb, hm, hl]⟩
        rintro rfl
        exact hb rfl
      next => cases h

theorem plainWords_classify (pieces : List Text) : PlainWords (pieces.map classify) := by
  intro v hv hk
  obtain ⟨s, -, rfl⟩ := List.mem_map.1 hv
  obtain ⟨hne, hletters, hs⟩ := letters_of_classify hk
  rw [hs]
  refine ⟨hne, fun hmem => ?_⟩
  have := hletters ' ' hmem
  revert this
  decide

namespace Grammar
open Vocabulary

theorem Gap.kind_ne_unknown {gap : List TokenValue} (h : Gap gap) :
    ∀ v ∈ gap, v.kind ≠ .unknown := by
  intro v hv
  simp [h v hv]

theorem Names.kind_ne_unknown {vs : List TokenValue} {texts : List Text} (h : Names vs texts) :
    ∀ v ∈ vs, v.kind ≠ .unknown := by
  have hseparators : ∀ v ∈ separators, v.kind ≠ .unknown := by decide
  intro v hv
  rcases h.mem v hv with h | h | h
  · simp [h]
  · exact hseparators v h
  · simp [h.1]

theorem Sentence.kind_ne_unknown {vs : List TokenValue} {op : Operation} (h : Sentence vs op) :
    ∀ v ∈ vs, v.kind ≠ .unknown := by
  have hmark : ∀ m, ∀ v ∈ [terminator m], v.kind ≠ .unknown := by
    intro m
    cases m <;> decide
  cases h with
  | create hl | display hl _ | remove hl _ =>
    simp only [List.forall_mem_cons, List.forall_mem_append]
    exact ⟨by decide, hl.kind_ne_unknown, by simpa using hmark _⟩
  | add hl hl' | removeFrom hl hl' _ =>
    simp only [List.forall_mem_cons, List.forall_mem_append]
    exact ⟨by decide, hl.kind_ne_unknown, by decide, hl'.kind_ne_unknown, by simpa using hmark _⟩

theorem Program.kind_ne_unknown {vs : List TokenValue} {ops : List Operation}
    (h : Program vs ops) : ∀ v ∈ vs, v.kind ≠ .unknown := by
  induction h with
  | blank hgap => exact hgap.kind_ne_unknown
  | sentence hgap hs _ ih =>
    simp only [List.forall_mem_append]
    exact ⟨hgap.kind_ne_unknown, hs.kind_ne_unknown, ih⟩

end Grammar

open Grammar

/-- A source gives operations exactly if its values are a program for them. -/
theorem parseSource_eq_ok_iff {source : Text} {ops : List Operation} :
    parseSource source = .ok ops ↔ Program (sourceValues source) ops := by
  have hplain : PlainWords (sourceValues source) := plainWords_classify _
  simp only [parseSource, Except.bind_eq_ok, Except.mapError_eq_ok]
  constructor
  · rintro ⟨ts, ht, hp⟩
    obtain ⟨rfl, -⟩ := tokenize_eq_ok_iff.1 ht
    rw [← map_value_segments] at hplain ⊢
    exact program_of_parse hplain hp
  · intro h
    exact ⟨_, tokenize_eq_ok_iff.2 ⟨rfl, h.kind_ne_unknown⟩,
      parse_of_program h hplain (map_value_segments source)⟩

end Roster
