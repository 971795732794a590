import Roster.Proofs.SessionDivision

/-! When an input is complete. The last token of a source is no whitespace, unless all of the source
is blank, and operations end with a terminator. So a source of operations is complete, and what a
session still waits on is refused as it stands. -/
namespace Roster
open Grammar Text Vocabulary

namespace Text

/-- A text ends as the last of its pieces does. -/
theorem getLast?_flatten_of_ne_nil {ps : List Text} (h : ∀ p ∈ ps, p ≠ []) :
    ps.flatten.getLast? = ps.getLast?.bind List.getLast? := by
  rcases List.eq_nil_or_concat ps with rfl | ⟨init, p, rfl⟩
  · rfl
  · have hp : p ≠ [] := h p (by simp)
    simp [List.getLast?_append, List.getLast?_eq_some_getLast hp]

end Text

/-- The last word of a trimmed text is not blank. -/
theorem kind_getLast_sourceValues (source : Text) :
    ∀ v ∈ (sourceValues source).getLast?, v.kind ≠ .whitespace := by
  intro v hv hkind
  rw [sourceValues, List.getLast?_map, Option.mem_def, Option.map_eq_some_iff] at hv
  obtain ⟨piece, hpiece, rfl⟩ := hv
  have hpieces : ∀ p ∈ words (source.trim isBlank), p ≠ [] := cut_pieces_ne_nil wordRule [] _
  have hne : piece ≠ [] := hpieces piece (List.mem_of_mem_getLast? hpiece)
  have hends : (source.trim isBlank).getLast? = piece.getLast? := by
    rw [← flatten_words (source.trim isBlank), getLast?_flatten_of_ne_nil hpieces, hpiece]
    rfl
  have hlast : piece.getLast hne ∈ (source.trim isBlank).getLast? := by
    rw [hends, List.getLast?_eq_some_getLast hne]
    rfl
  have hblank := blanks_of_classify hkind _ (List.getLast_mem hne)
  rw [(trim_ends isBlank source).2 _ hlast] at hblank
  cases hblank

theorem lastValue?_eq_getLast (source : Text) :
    lastValue? source = (sourceValues source).getLast? := by
  have hkind := kind_getLast_sourceValues source
  rw [lastValue?, map_classify_segments]
  rcases List.eq_nil_or_concat (sourceValues source) with hnil | ⟨init, v, hconcat⟩
  · rw [hnil]
    rfl
  · rw [hconcat, List.concat_eq_append] at hkind ⊢
    have hv : v.kind ≠ .whitespace := hkind v (by simp)
    simp [hv]

theorem sourceValues_eq_nil_iff {source : Text} :
    sourceValues source = [] ↔ ∀ c ∈ source, isBlank c = true := by
  rw [sourceValues, List.map_eq_nil_iff, ← trim_eq_nil_iff]
  refine ⟨fun h => ?_, fun h => by rw [h]; rfl⟩
  by_contra hne
  exact cut_ne_nil hne h

/-- Whitespace only is found in a blank source alone. -/
theorem sourceValues_eq_nil_of_gap {source : Text} (h : Gap (sourceValues source)) :
    sourceValues source = [] := by
  by_contra hne
  have hlast := List.getLast?_eq_some_getLast hne
  exact kind_getLast_sourceValues source _ hlast (h _ (List.getLast_mem hne))

/-- Operations end with a terminator. -/
theorem Grammar.Program.exists_terminator {vs : List TokenValue} {ops : List Operation}
    (h : Program vs ops) (hne : ops ≠ []) :
    ∃ front m gap, vs = front ++ terminator m :: gap ∧ Gap gap := by
  induction h with
  | blank _ => exact absurd rfl hne
  | @sentence gap ws rest op ops hgap hs hrest ih =>
    by_cases hops : ops = []
    · subst hops
      obtain ⟨k, init, m, rfl, -⟩ := hs.terminated
      exact ⟨gap ++ k.value :: init, m, rest, by simp, hrest.gap_of_nil⟩
    · obtain ⟨front, m, gap', rfl, hgap'⟩ := ih hops
      exact ⟨gap ++ (ws ++ front), m, gap', by simp, hgap'⟩

theorem isComplete_of_parseSource {source : Text} {ops : List Operation}
    (h : parseSource source = .ok ops) (hne : ops ≠ []) : isComplete source = true := by
  obtain ⟨front, m, gap, hvalues, hgap⟩ := (parseSource_eq_ok_iff.1 h).exists_terminator hne
  have hkind := kind_getLast_sourceValues source
  have hlast : lastValue? source = some (terminator m) := by
    rw [lastValue?_eq_getLast]
    rcases List.eq_nil_or_concat gap with rfl | ⟨init, v, rfl⟩
    · rw [hvalues]
      simp
    · rw [List.concat_eq_append] at hvalues hgap
      have hsplit : sourceValues source = (front ++ terminator m :: init) ++ [v] := by
        simp [hvalues]
      rw [hsplit, List.getLast?_concat] at hkind
      exact absurd (hgap v (by simp)) (hkind v rfl)
  rw [isComplete, hlast]
  rfl

/-- Sources that the user is told to be wrong. -/
def IsRefused (source : Text) : Prop :=
  (∃ e, parseSource source = .error (.lex e)) ∨
    ∃ e, parseSource source = .error (.rejected (.parse e))

theorem isRefused_of_not_isComplete {source : Text} (h : isComplete source = false)
    (hblank : ∃ c ∈ source, isBlank c = false) : IsRefused source := by
  rcases parseSource_cases source with ⟨ops, hops⟩ | hlex | hparse
  · by_cases hne : ops = []
    · subst hne
      have hnil := sourceValues_eq_nil_of_gap (parseSource_eq_ok_iff.1 hops).gap_of_nil
      obtain ⟨c, hc, hother⟩ := hblank
      rw [sourceValues_eq_nil_iff.1 hnil c hc] at hother
      cases hother
    · rw [isComplete_of_parseSource hops hne] at h
      cases h
  · exact .inl hlex
  · exact .inr hparse

namespace Session

/-- The lines that a session has pending are an open input. -/
theorem isOpen_submissions (lines : List Text) : IsOpen (submissions [] lines).2 := by
  rw [submissions_eq]
  exact (division_divide isOpen_nil lines).isOpen

/-- What a session waits on is no complete input. -/
theorem isComplete_pending {lines : List Text} (h : (submissions [] lines).2 ≠ []) :
    isComplete (joined (submissions [] lines).2) = false :=
  (isOpen_submissions lines).incomplete _ List.prefix_rfl h

end Session

/-- The check for completeness looks at the last token, finds every source of operations complete,
and keeps a session waiting only on lines that are refused. -/
theorem isComplete_of_finished (source : Text) :
    (lastValue? source = none ↔ ∀ c ∈ source, isBlank c = true) ∧
      lastValue? source = (segments source).getLast?.map (fun s => classify s.text) ∧
      (∀ ts, tokenize source = .ok ts → lastValue? source = ts.getLast?.map Token.value) ∧
      (∀ ops, parseSource source = .ok ops → ops ≠ [] → isComplete source = true) ∧
      (isComplete source = false → (∃ c ∈ source, isBlank c = false) → IsRefused source) ∧
      ∀ lines, Session.joined (Session.submissions [] lines).2 = source →
        (∃ c ∈ source, isBlank c = false) → IsRefused source := by
  refine ⟨?none, ?segment, ?token, ?operations, isRefused_of_not_isComplete, ?waiting⟩
  case none =>
    rw [lastValue?_eq_getLast, List.getLast?_eq_none_iff]
    exact sourceValues_eq_nil_iff
  case segment =>
    rw [lastValue?_eq_getLast, ← map_classify_segments, List.getLast?_map]
  case token =>
    intro ts h
    obtain ⟨rfl, -⟩ := tokenize_eq_ok_iff.1 h
    rw [lastValue?_eq_getLast, ← map_value_segments, List.getLast?_map]
  case operations => exact fun _ => isComplete_of_parseSource
  case waiting =>
    rintro lines rfl hblank
    refine isRefused_of_not_isComplete (Session.isComplete_pending ?_) hblank
    intro hnil
    obtain ⟨c, hc, -⟩ := hblank
    rw [hnil] at hc
    cases hc

/-- A name broken over two lines, and the first of them alone. -/
theorem isComplete_brokenName :
    (∃ ops, parseSource "Show Ann\nLee.".toList = .ok ops ∧ ops ≠ []) ∧
      isComplete "Show Ann\nLee.".toList = true ∧
      (Session.submissions [] ["Show Ann".toList]).2 = ["Show Ann".toList] ∧
      IsRefused "Show Ann".toList := by
  obtain ⟨-, -, -, hcomplete, -⟩ := isComplete_of_finished "Show Ann\nLee.".toList
  obtain ⟨-, -, -, -, -, hwaits⟩ := isComplete_of_finished "Show Ann".toList
  have hleft : (Session.submissions [] ["Show Ann".toList]).2 = ["Show Ann".toList] := by
    decide +kernel
  have hjoined : Session.joined (Session.submissions [] ["Show Ann".toList]).2 =
      "Show Ann".toList := by
    rw [hleft, Session.joined_singleton]
  exact ⟨⟨_, parseSource_brokenName, by simp⟩,
    hcomplete _ parseSource_brokenName (by simp), hleft,
    hwaits ["Show Ann".toList] hjoined ⟨'S', by decide, by decide⟩⟩

end Roster
