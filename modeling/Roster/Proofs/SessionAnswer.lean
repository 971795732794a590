import Roster.Proofs.SessionSource

/-! What an interactive session writes. A session never crashes: each prompt is followed by the
records and the answer of the input that the line behind it completes, if it completes one. -/
namespace Roster.Session
open Grammar Text

/-- What is shown for what a source comes to: its operations, or the diagnostic of its error. -/
def reply (settings : Settings) : Except SourceError (List Operation) → List Output
  | .ok ops => reportOperations settings.format settings.indexed ops
  | .error (.lex e) => [.err (displayedLine e.message)]
  | .error (.rejected (.parse e)) => [.err (displayedLine e.message)]
  | .error (.rejected _) => []

/-- The log records of an input. -/
def records (source : Text) : List LogRecord :=
  LogRecord.ofSource source ++
    match parseSource source with
    | .ok _ => []
    | .error _ => [.refused source]

theorem answer_eq (settings : Settings) (source : Text) :
    answer settings source =
      .ok ((records source).map .log ++ reply settings (parseSource source)) := by
  rcases parseSource_cases source with ⟨ops, h⟩ | ⟨e, h⟩ | ⟨e, h⟩ <;>
    simp [answer, records, reply, h, reportError, SourceError.diagnostic, bind, Except.bind, pure,
      Except.pure]

/-- Each prompt of a session, and the input that the line behind it completes. -/
def exchanges (settings : Settings) : List Text → List Text → List (Output × Option Text)
  | _, [] => []
  | pending, line :: lines =>
    (promptOutput settings pending, (feed pending line).2) ::
      exchanges settings (feed pending line).1 lines

/-- A prompt with what is written before the next one. -/
def written (settings : Settings) (exchange : Output × Option Text) : List Output :=
  exchange.1 :: exchange.2.toList.flatMap fun source =>
    (records source).map .log ++ reply settings (parseSource source)

theorem respond_eq (settings : Settings) (pending : List Text) (line : Text) :
    respond settings pending line =
      ((feed pending line).1, .ok ((feed pending line).2.toList.flatMap fun source =>
        (records source).map .log ++ reply settings (parseSource source))) := by
  rcases hfeed : feed pending line with ⟨next, _ | source⟩
  · simp [respond, hfeed]
  · simp [respond, hfeed, answer_eq]

/-- A session writes its exchanges and a last prompt, and never crashes. -/
theorem transcript_eq (settings : Settings) (pending lines : List Text) :
    transcript settings pending lines =
      ((exchanges settings pending lines).flatMap (written settings) ++
        [promptOutput settings (submissions pending lines).2, .out ['\n']], none) := by
  induction lines generalizing pending with
  | nil => rfl
  | cons line lines ih =>
    rw [transcript, exchanges, submissions, respond_eq]
    simp [ih, written]

theorem value_mem_of_lastValue? {source : Text} {v : TokenValue} (h : lastValue? source = some v) :
    v ∈ sourceValues source ∧ v.kind ≠ .whitespace := by
  rw [lastValue?, map_classify_segments] at h
  have hkind := List.find?_some h
  exact ⟨List.mem_reverse.1 (List.mem_of_find?_eq_some h), by simpa using hkind⟩

/-- A complete input holds more than whitespace, so it has operations if it has no error. -/
theorem ne_nil_of_isComplete {source : Text} {ops : List Operation} (h : isComplete source = true)
    (hops : parseSource source = .ok ops) : ops ≠ [] := by
  rintro rfl
  have hgap := (parseSource_eq_ok_iff.1 hops).gap_of_nil
  unfold isComplete at h
  split at h
  next => cases h
  next v hlast =>
    obtain ⟨hmem, hkind⟩ := value_mem_of_lastValue? hlast
    exact hkind (hgap v hmem)

theorem reply_ne_nil (settings : Settings) {source : Text} (h : isComplete source = true) :
    reply settings (parseSource source) ≠ [] := by
  rcases parseSource_cases source with ⟨ops, hops⟩ | ⟨e, he⟩ | ⟨e, he⟩
  · have hne := ne_nil_of_isComplete h hops
    simp [reply, hops, reportOperations, hne]
  · simp [reply, he]
  · simp [reply, he]

theorem feed_of_isComplete {line : Text} (h : isComplete line = true) :
    feed [] line = ([], if line.all isMargin then none else some line) := by
  by_cases hm : line.all isMargin = true <;> simp [feed, hm, joined_singleton, h]

theorem transcript_line (settings : Settings) {line : Text} (h : isComplete line = true) :
    transcript settings [] [line] =
      (promptOutput settings [] :: (if line.all isMargin then [] else
          (records line).map .log ++ reply settings (parseSource line)) ++
        [promptOutput settings [], .out ['\n']], none) := by
  have hfeed := feed_of_isComplete h
  have hleft : (submissions [] [line]).2 = [] := by simp [submissions, hfeed]
  have hone : exchanges settings [] [line] = [(promptOutput settings [], (feed [] line).2)] := rfl
  rw [transcript_eq, hleft, hone, hfeed]
  by_cases hm : line.all isMargin = true <;> simp [written, hm]

/-- A session over one line that is a complete input always has something to answer it with, and
writes that answer exactly if the line holds more than blanks and information separators. -/
theorem transcript_line_iff (settings : Settings) {line : Text} (h : isComplete line = true) :
    reply settings (parseSource line) ≠ [] ∧
      (transcript settings [] [line] =
          (promptOutput settings [] ::
            ((records line).map .log ++ reply settings (parseSource line)) ++
            [promptOutput settings [], .out ['\n']], none) ↔
        ∃ c ∈ line, isMargin c = false) := by
  have hreply := reply_ne_nil settings h
  refine ⟨hreply, ?_⟩
  rw [transcript_line settings h]
  by_cases hm : line.all isMargin = true
  · have hnone : ¬∃ c ∈ line, isMargin c = false := by simpa using hm
    refine iff_of_false (fun heq => ?_) hnone
    have hlength := congrArg (fun written => written.1.length) heq
    have hpos : 0 < (reply settings (parseSource line)).length := List.length_pos_iff.2 hreply
    simp only [if_pos hm, List.length_append, List.length_cons, List.length_nil] at hlength
    omega
  · have hsome : ∃ c ∈ line, isMargin c = false := by simpa using hm
    rw [if_neg hm]
    exact iff_of_true rfl hsome

theorem transcript_line_question :
    isComplete ['?'] = true ∧ (∃ c ∈ ['?'], isMargin c = false) ∧
      transcript .defaults [] [['?']] =
        (promptOutput .defaults [] ::
          ((records ['?']).map .log ++ reply .defaults (parseSource ['?'])) ++
          [promptOutput .defaults [], .out ['\n']], none) := by
  have hcomplete : isComplete ['?'] = true := by decide +kernel
  have hmore : ∃ c ∈ ['?'], isMargin c = false := ⟨'?', by simp, by decide⟩
  exact ⟨hcomplete, hmore, (transcript_line_iff .defaults hcomplete).2.2 hmore⟩

/-- An information separator is a complete input and an error, but a session passes over it. -/
theorem transcript_separator :
    isComplete ['\x1c'] = true ∧ (∃ e, parseSource ['\x1c'] = .error (.lex e)) ∧
      transcript .defaults [] [['\x1c']] =
        ([promptOutput .defaults [], promptOutput .defaults [], .out ['\n']], none) := by
  have hcomplete : isComplete ['\x1c'] = true := by decide +kernel
  refine ⟨hcomplete, ⟨⟨⟨.unknown ['\x1c'], ['\x1c'], 1, 1⟩⟩, by decide +kernel⟩, ?_⟩
  rw [transcript_line .defaults hcomplete, if_pos (by decide)]
  rfl

end Roster.Session
