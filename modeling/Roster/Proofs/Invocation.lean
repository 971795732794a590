import Roster.CommandLine.Run
import Roster.Proofs.ParseOutcome

/-! Runs of `parse` and `check`. With arguments that are accepted, such a run is prepared by the
settings, the level and the format; then it reads its source, and writes its operations or the
diagnostic of its error. -/
namespace Roster.CommandLine

/-- Arguments that call a command: the options in front of it, and what it is given itself. -/
structure Calls (args : List Text) (c : Command) (root own : Parsed) : Prop where
  root_eq : parseArguments rootOptions true args = some root
  no_version : root.has versionOption.long = false
  usable : hasUsablePath configOption root = true
  own_eq : ∃ rest, root.positional = c.name :: rest ∧ commandArguments c rest = .ok own

/-- The level in force and what is written for operations, where nothing is wrong with the settings
and the options. -/
inductive Prepared (env : Surroundings) (root own : Parsed) :
    Command → LogLevel → (List Operation → List Output) → Prop
  | check {settings : Settings} {level : LogLevel} (hs : settingsFor env root = .ok settings)
      (hl : levelFor settings root = .ok level) : Prepared env root own .check level checkOutput
  | parse {settings : Settings} {level : LogLevel} {format : OutputFormat}
      (hs : settingsFor env root = .ok settings) (hl : levelFor settings root = .ok level)
      (hf : formatFor settings own = .ok format) :
      Prepared env root own .parse level (parseOutput format settings.indexed)

/-- The three ways to pass a source. -/
inductive Given (env : Surroundings) (input : Text) (own : Parsed) : Text → Prop
  | argument {s : Text} {others : List Text} (hp : own.positional = s :: others)
      (hf : own.value? fileOption.long = none) : Given env input own s
  | file {path s : Text} (hp : own.positional = [])
      (hf : own.value? fileOption.long = some path) (hr : (env.entry path).read = .ok s) :
      Given env input own s
  | standardInput (hp : own.positional = []) (hf : own.value? fileOption.long = none) :
      Given env input own (Text.unifyLineEnds input)

/-- A run that gets as far as its source. -/
def Reaches (env : Surroundings) (input : Text) (args : List Text) (c : Command)
    (level : LogLevel) (go : List Operation → List Output) (s : Text) : Prop :=
  ∃ root own, Calls args c root own ∧ Prepared env root own c level go ∧ Given env input own s

section Source

variable {go : List Operation → List Output} {level : LogLevel} {s message : Text}
  {e : SourceError} {ops : List Operation}

/-- An error of a source has a diagnostic. -/
theorem exists_diagnostic (h : parseSource s = .error e) :
    ∃ message, e.diagnostic = .ok message := by
  rcases parseSource_cases s with ⟨ops, hs⟩ | ⟨e', hs⟩ | ⟨e', hs⟩ <;> rw [hs] at h <;> cases h
  · exact ⟨_, rfl⟩
  · exact ⟨_, rfl⟩

theorem withOperations_of_ok (go : List Operation → List Output) (h : parseSource s = .ok ops) :
    withOperations go s = ⟨(LogRecord.ofSource s).map .log ++ go ops, 0, none⟩ := by
  simp only [withOperations, h]

theorem withOperations_of_error (go : List Operation → List Output)
    (h : parseSource s = .error e) (hm : e.diagnostic = .ok message) :
    withOperations go s =
      ⟨(LogRecord.ofSource s).map .log ++ [.err (displayedLine message)], 1, none⟩ := by
  have hreport : reportError e = .ok [.err (displayedLine message)] := by
    rw [reportError, hm]
    rfl
  simp only [withOperations, h, hreport]

end Source

/-- What a run ends with, be it the whole of it or cut short. -/
def ended : Except Outcome Outcome → Outcome
  | .ok o => o
  | .error o => o

/-- The source of a run. -/
def sourceFor (env : Surroundings) (input : Text) (own : Parsed) : Except Outcome Text :=
  (givenSource env own).map fun s => s.getD (Text.unifyLineEnds input)

/-- The end of a run whose start is known. -/
def Start.goOn (input : Text) : Start → Outcome
  | finished o => o
  | reading go => go input
  | session settings level => (runSession settings input).atLevel level

variable {env : Surroundings} {input : Text} {args : List Text} {c : Command} {root own : Parsed}
  {settings : Settings} {level : LogLevel} {go : List Operation → List Output} {s : Text}
  {o : Outcome}

theorem run_eq_goOn (env : Surroundings) (input : Text) (args : List Text) :
    run env input args = (start env args).goOn input := by
  rw [run]
  cases start env args <;> rfl

@[simp] theorem Command.ofName?_name (c : Command) : Command.ofName? c.name = some c := by
  cases c <;> rfl

/-- Accepted arguments lead to the command once the settings and the level are known. -/
theorem Calls.start_eq (h : Calls args c root own) (env : Surroundings) :
    start env args =
      match (do
        let settings ← settingsFor env root
        let level ← levelFor settings root
        c.start env settings level own) with
      | .ok next => next
      | .error o => .finished o := by
  obtain ⟨rest, hpositional, hown⟩ := h.own_eq
  simp only [start, h.root_eq, h.no_version, Bool.false_eq_true, ↓reduceIte, startNamed, h.usable,
    hpositional, Command.ofName?_name, startCommand, hown]
  rfl

theorem Calls.run_of_settings (h : Calls args c root own) (hs : settingsFor env root = .error o) :
    run env input args = o := by
  rw [run_eq_goOn, h.start_eq, hs]
  rfl

theorem Calls.run_of_level (h : Calls args c root own) (hs : settingsFor env root = .ok settings)
    (hl : levelFor settings root = .error o) : run env input args = o := by
  rw [run_eq_goOn, h.start_eq, hs]
  simp only [bind, Except.bind, hl]
  rfl

theorem Calls.run_of_format (h : Calls args .parse root own)
    (hs : settingsFor env root = .ok settings) (hl : levelFor settings root = .ok level)
    (hf : formatFor settings own = .error o) : run env input args = o := by
  rw [run_eq_goOn, h.start_eq, hs]
  simp only [bind, Except.bind, hl, Command.start, hf]
  rfl

/-- A run that is prepared does as its source says. -/
theorem Calls.run_of_prepared (h : Calls args c root own) (hp : Prepared env root own c level go) :
    run env input args =
      ended ((sourceFor env input own).map fun s => (withOperations go s).atLevel level) := by
  rw [run_eq_goOn, h.start_eq, sourceFor]
  cases hp with
  | check hs hl =>
    simp only [hs, hl, bind, Except.bind, Command.start]
    rcases givenSource env own with o | _ | s <;> rfl
  | parse hs hl hf =>
    simp only [hs, hl, hf, bind, Except.bind, Command.start]
    rcases givenSource env own with o | _ | s <;> rfl

theorem Given.sourceFor_eq (h : Given env input own s) : sourceFor env input own = .ok s := by
  cases h with
  | argument hp hf => simp only [sourceFor, givenSource, hp, hf, List.head?_cons]; rfl
  | file hp hf hr => simp only [sourceFor, givenSource, hp, hf, hr, List.head?_nil]; rfl
  | standardInput hp hf => simp only [sourceFor, givenSource, hp, hf, List.head?_nil]; rfl

/-- A run that gets as far as its source writes its operations or its diagnostic. -/
theorem Reaches.run_eq (h : Reaches env input args c level go s) :
    run env input args = (withOperations go s).atLevel level := by
  obtain ⟨root, own, hcalls, hprepared, hgiven⟩ := h
  rw [hcalls.run_of_prepared hprepared, hgiven.sourceFor_eq]
  rfl

end Roster.CommandLine
