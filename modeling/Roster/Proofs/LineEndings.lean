import Roster.Proofs.LineReturns
import Roster.Proofs.ParseOutcome
import Roster.Proofs.TokenOrder
import Roster.Proofs.TokenRelabelling

/-! Line endings in answers. Messages quote a line without its ending, so a source has the same
operations or the same message when a carriage return is put in front of every line feed. -/
namespace Roster
open Text

/-- A line without carriage returns. -/
structure PhysicalLine (line : Text) : Prop where
  isLine : IsLine line
  noReturn : '\r' ∉ line

/-- What follows the last character of a line is trimmed away, whatever its ending is. -/
theorem PhysicalLine.trimEnd_withReturns {line : Text} (h : PhysicalLine line) :
    line.withReturns.trimEnd isMargin = line.trimEnd isMargin := by
  obtain ⟨init, hinit, rfl | rfl⟩ := h.isLine
  · rw [withReturns_eq_self hinit]
  · have hblank : ∀ c ∈ ['\n'], isBlank c = true := List.forall_mem_singleton.2 (by decide)
    have hfeed : ∀ c ∈ ['\n'], isMargin c = true := fun c hc => isMargin_of_isBlank (hblank c hc)
    have hreturn : ∀ c ∈ withReturns ['\n'], isMargin c = true :=
      fun c hc => isMargin_of_isBlank (isBlank_withReturns hblank c hc)
    rw [withReturns_append, withReturns_eq_self hinit, trimEnd_append_of_forall _ hreturn,
      trimEnd_append_of_forall _ hfeed]

namespace Token

variable {t u : Token}

theorem value_withReturns (t : Token) : t.withReturns.value = t.value := rfl

theorem excerpt_withReturns (h : PhysicalLine t.line) : t.withReturns.excerpt = t.excerpt := by
  have hline : t.withReturns.line.trimEnd isMargin = t.line.trimEnd isMargin :=
    h.trimEnd_withReturns
  rw [excerpt, hline]
  rfl

theorem withReturns_inj (ht : PhysicalLine t.line) (hu : PhysicalLine u.line) :
    t.withReturns = u.withReturns ↔ t = u := by
  constructor
  · intro h
    have hlines := congrArg (fun t => t.line.filter (· ≠ '\r')) h
    have hline : t.line = u.line := by
      simpa only [withReturns, filter_withReturns ht.noReturn, filter_withReturns hu.noReturn]
        using hlines
    cases t
    cases u
    simp_all [withReturns]
  · exact congrArg withReturns

end Token

theorem LexError.message_withReturns {e : LexError} (h : PhysicalLine e.token.line) :
    (LexError.mk e.token.withReturns).message = e.message := by
  have hplace : e.token.withReturns.place = e.token.place := rfl
  have hexcerpt : e.token.withReturns.excerpt = e.token.excerpt := Token.excerpt_withReturns h
  unfold message
  rw [hplace, hexcerpt, Token.value_withReturns]

namespace ParseError

variable {e : ParseError}

theorem anchor_withReturns :
    (e.mapTokens Token.withReturns).anchor = e.anchor.withReturns := by
  obtain ⟨fault, kind, start, unexpected, expected, details⟩ := e
  cases unexpected with
  | none => rfl
  | some t =>
    have hline : t.withReturns.lineNumber = t.lineNumber := rfl
    have hstart : start.withReturns.lineNumber = start.lineNumber := rfl
    simp only [anchor, mapTokens, Option.map_some, hline, hstart]
    split <;> rfl

theorem unexpectedPart_withReturns (hs : PhysicalLine e.start.line)
    (hu : ∀ t ∈ e.unexpected, PhysicalLine t.line) :
    (e.mapTokens Token.withReturns).unexpectedPart = e.unexpectedPart := by
  obtain ⟨fault, kind, start, unexpected, expected, details⟩ := e
  cases unexpected with
  | none => rfl
  | some t =>
    have ht : PhysicalLine t.line := hu t rfl
    simp only [unexpectedPart, mapTokens, Option.map_some, Token.withReturns_inj ht hs,
      Token.excerpt_withReturns ht]
    rfl

theorem expectedPart_withReturns :
    (e.mapTokens Token.withReturns).expectedPart = e.expectedPart := by
  obtain ⟨fault, kind, start, unexpected, expected, details⟩ := e
  simp only [expectedPart, mapTokens, Option.isSome_map]

/-- The message shows no line ending. -/
theorem message_withReturns (hs : PhysicalLine e.start.line)
    (hu : ∀ t ∈ e.unexpected, PhysicalLine t.line) :
    (e.mapTokens Token.withReturns).message = e.message := by
  have hplace : (e.mapTokens Token.withReturns).anchor.place = e.anchor.place := by
    rw [anchor_withReturns]
    rfl
  have hexcerpt : (e.mapTokens Token.withReturns).start.excerpt = e.start.excerpt :=
    Token.excerpt_withReturns hs
  have hheading : (e.mapTokens Token.withReturns).heading = e.heading := rfl
  have hdetails : (e.mapTokens Token.withReturns).detailsPart = e.detailsPart := rfl
  rw [message, hheading, hplace, hexcerpt, unexpectedPart_withReturns hs hu,
    expectedPart_withReturns, hdetails, message]

end ParseError

/-- Tokens quote physical lines. -/
theorem physicalLine_of_mem {source : Text} {t : Token} (h : '\r' ∉ source)
    (ht : t ∈ (segments source).map Token.ofSegment) : PhysicalLine t.line := by
  obtain ⟨s, hs, rfl⟩ := List.mem_map.1 ht
  obtain ⟨-, -, -, -, hline, -⟩ := Segment.exists_of_mem_ofLines hs
  exact ⟨isLine_of_mem_cut s.line hline, fun hc => h (mem_of_mem_lines hline hc)⟩

theorem mem_of_tokenize_eq_error {source : Text} {e : LexError} (h : tokenize source = .error e) :
    e.token ∈ (segments source).map Token.ofSegment :=
  List.mem_of_find?_eq_some (tokenize_eq_error_iff.1 h)

/-- Tokens that differ in the lines that they quote only, or errors with one message. -/
def SameTokens : Except LexError (List Token) → Except LexError (List Token) → Prop
  | .ok ts, .ok ts' =>
    ts'.map (fun t => (t.value, t.lineNumber, t.column)) =
      ts.map fun t => (t.value, t.lineNumber, t.column)
  | .error e, .error e' => e'.message = e.message
  | _, _ => False

/-- The same operations, or errors of one class with one message, and of one kind. -/
def SameAnswer :
    Except SourceError (List Operation) → Except SourceError (List Operation) → Prop
  | .ok ops, .ok ops' => ops' = ops
  | .error (.lex e), .error (.lex e') => e'.message = e.message
  | .error (.rejected (.parse e)), .error (.rejected (.parse e')) =>
    e'.message = e.message ∧ e'.fault = e.fault ∧ e'.kind = e.kind
  | _, _ => False

theorem sameTokens_withReturns {source : Text} (h : '\r' ∉ source) :
    SameTokens (tokenize source) (tokenize source.withReturns) := by
  rw [tokenize_withReturns h]
  cases ht : tokenize source with
  | ok ts =>
    simp only [Except.map, Except.mapError_ok, SameTokens, List.map_map]
    rfl
  | error e =>
    exact LexError.message_withReturns (physicalLine_of_mem h (mem_of_tokenize_eq_error ht))

theorem sameAnswer_withReturns {source : Text} (h : '\r' ∉ source) :
    SameAnswer (parseSource source) (parseSource source.withReturns) := by
  rw [parseSource, parseSource, tokenize_withReturns h]
  cases ht : tokenize source with
  | error e =>
    exact LexError.message_withReturns (physicalLine_of_mem h (mem_of_tokenize_eq_error ht))
  | ok ts =>
    have hts := (tokenize_eq_ok_iff.1 ht).1
    have hphysical : ∀ t ∈ ts, PhysicalLine t.line := by
      rw [hts]
      exact fun t => physicalLine_of_mem h
    have hparse : parse (ts.map Token.withReturns) =
        (parse ts).mapError (Rejection.mapTokens Token.withReturns) :=
      parse_map Token.value_withReturns ts
    simp only [Except.map, Except.mapError_ok, bind, Except.bind, hparse]
    cases hp : parse ts with
    | ok ops => rfl
    | error r =>
      obtain ⟨e, rfl⟩ := settled_parse ts r hp
      obtain ⟨hs, hu⟩ := mem_of_parse_eq_error hp
      have hmessage := ParseError.message_withReturns (hphysical e.start hs)
        fun t ht => hphysical t (hu t ht)
      exact ⟨hmessage, rfl, rfl⟩

/-- A source without carriage returns gives the same tokens, but for the lines that they quote, and
the same answer when a carriage return is put in front of each line feed. -/
theorem withReturns_same {source : Text} (h : '\r' ∉ source) :
    SameTokens (tokenize source) (tokenize source.withReturns) ∧
      SameAnswer (parseSource source) (parseSource source.withReturns) :=
  ⟨sameTokens_withReturns h, sameAnswer_withReturns h⟩

theorem withReturns_same_brokenName :
    '\r' ∉ "Show Ann\nLee.".toList ∧
      SameTokens (tokenize "Show Ann\nLee.".toList) (tokenize "Show Ann\r\nLee.".toList) ∧
        parseSource "Show Ann\r\nLee.".toList = .ok [.display ["Ann Lee".toList] .plain] := by
  have hreturn : '\r' ∉ "Show Ann\nLee.".toList := by decide
  have hsource : withReturns "Show Ann\nLee.".toList = "Show Ann\r\nLee.".toList := by decide
  obtain ⟨htokens, hanswer⟩ := withReturns_same hreturn
  rw [hsource] at htokens hanswer
  rw [parseSource_brokenName] at hanswer
  refine ⟨hreturn, htokens, ?_⟩
  cases hr : parseSource "Show Ann\r\nLee.".toList with
  | ok ops =>
    rw [hr] at hanswer
    exact congrArg Except.ok hanswer
  | error e =>
    rw [hr] at hanswer
    cases hanswer

end Roster
