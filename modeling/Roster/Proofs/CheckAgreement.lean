import Roster.Proofs.Invocation
import Roster.Proofs.ReportLines

/-! What `check` and `parse` make of the same source. Both end with the same exit code, and with the
same diagnostic if there is one; otherwise `check` counts what `parse` lists. -/
namespace Roster

/-- What an output adds to standard output. -/
def Output.printed? : Output → Option Text
  | out s => some s
  | _ => none

/-- What an output adds to the error stream, if it is no log record. -/
def Output.complaint? : Output → Option Text
  | err s => some s
  | _ => none

/-- What outputs print, one after another. -/
def printedText (outputs : List Output) : Text := (outputs.filterMap Output.printed?).flatten

/-- A view that sees no log records does not depend on which of them are shown. -/
theorem filterMap_filter_isShown {view : Output → Option Text} (hview : ∀ r, view (.log r) = none)
    (level : LogLevel) (outputs : List Output) :
    (outputs.filter (Output.isShown level)).filterMap view = outputs.filterMap view := by
  rw [List.filterMap_filter]
  congr
  funext output
  cases output with
  | log r => rw [hview, ite_self]
  | out | err | usage => rfl

theorem filterMap_map_log {view : Output → Option Text} (hview : ∀ r, view (.log r) = none)
    (records : List LogRecord) (outputs : List Output) :
    (records.map Output.log ++ outputs).filterMap view = outputs.filterMap view := by
  have hrecords : (records.map Output.log).filterMap view = [] := by
    simp [List.filterMap_map, hview]
  rw [List.filterMap_append, hrecords, List.nil_append]

namespace CommandLine

namespace Outcome

def printed (o : Outcome) : Text := printedText o.outputs

/-- Diagnostics and complaints of a run. -/
def complaints (o : Outcome) : List Text := o.outputs.filterMap Output.complaint?

end Outcome

variable {go : List Operation → List Output} {level : LogLevel} {s message : Text}
  {e : SourceError} {ops : List Operation}

/-- What a run writes for the operations of its source, apart from log records. -/
theorem outcome_of_ok (go : List Operation → List Output) (level : LogLevel)
    (h : parseSource s = .ok ops) :
    ((withOperations go s).atLevel level).code = 0 ∧
      ((withOperations go s).atLevel level).printed = printedText (go ops) := by
  rw [withOperations_of_ok go h]
  refine ⟨rfl, ?_⟩
  rw [Outcome.printed, Outcome.atLevel, printedText, filterMap_filter_isShown (fun _ => rfl),
    filterMap_map_log (fun _ => rfl)]
  rfl

theorem outcome_of_error (go : List Operation → List Output) (level : LogLevel)
    (h : parseSource s = .error e) (hm : e.diagnostic = .ok message) :
    ((withOperations go s).atLevel level).code = 1 ∧
      ((withOperations go s).atLevel level).complaints = [displayedLine message] := by
  rw [withOperations_of_error go h hm]
  refine ⟨rfl, ?_⟩
  rw [Outcome.complaints, Outcome.atLevel, filterMap_filter_isShown (fun _ => rfl),
    filterMap_map_log (fun _ => rfl)]
  rfl

/-- `OK (n operations)`. -/
def countLine (n : Nat) : Text := "OK (".toList ++ Text.ofNat n ++ " operations)\n".toList

theorem printed_checkOutput (ops : List Operation) :
    printedText (checkOutput ops) = countLine ops.length := by
  have hlaid : Text.Laid ("OK (".toList ++ Text.ofNat ops.length ++ " operations)".toList) := by
    apply Text.Graphic.laid
    simp only [Text.graphic_append]
    exact ⟨⟨by decide, Text.graphic_ofNat _⟩, by decide⟩
  have hline : displayedLine ("OK (".toList ++ Text.ofNat ops.length ++ " operations)".toList) =
      countLine ops.length := by
    rw [displayedLine, Text.displayed_eq_self hlaid, List.append_assoc]
    rfl
  rw [checkOutput, hline]
  exact List.append_nil _

/-- Beside a report, `parse` writes a log record only. -/
theorem printed_parseOutput {format : OutputFormat} {indexed : Bool} {t : Text}
    (h : reportOperations format indexed ops = [.out t]) :
    printedText (parseOutput format indexed ops) = t := by
  rw [parseOutput, h]
  exact List.append_nil t

/-- In text form, an operation is a line. -/
theorem length_lines_parseOutput (h : parseSource s = .ok ops) (indexed : Bool) :
    (printedText (parseOutput .text indexed ops)).lines.length = ops.length := by
  by_cases hne : ops = []
  · subst hne
    rfl
  · have hprinted : printedText (parseOutput .text indexed ops) =
        displayedLine (formatOperations .text indexed ops) :=
      printed_parseOutput (by simp [reportOperations, hne])
    have hlines : ∀ line ∈ confirmationLines indexed ops, '\n' ∉ line := fun line hline =>
      (graphic_confirmationLines h indexed line hline).newline_not_mem
    rw [hprinted, displayedLine_text h hne, Text.lines_flatten hlines, List.length_map,
      length_confirmationLines]

/-- In JSON form, an operation is an item. -/
theorem printed_parseOutput_json (indexed : Bool) (ops : List Operation) :
    printedText (parseOutput .json indexed ops) =
      (Operation.listToJson ops).indented ++ ['\n'] := by
  rw [← displayedLine_json indexed]
  exact printed_parseOutput (by simp [reportOperations])

/-- What a run of `check` and one of `parse`, of the same source, have to do with each other. -/
structure Agreement (s : Text) (format : OutputFormat) (checked parsed : Outcome) : Prop where
  code_eq : checked.code = parsed.code
  code_eq_zero_iff : checked.code = 0 ↔ ∃ ops, parseSource s = .ok ops
  refused : ∀ e, parseSource s = .error e → checked.code = 1 ∧ ∃ message,
    e.diagnostic = .ok message ∧ checked.complaints = [displayedLine message] ∧
      parsed.complaints = [displayedLine message]
  counted : ∀ ops, parseSource s = .ok ops → checked.printed = countLine ops.length
  lines : format = .text → ∀ ops, parseSource s = .ok ops →
    parsed.printed.lines.length = ops.length
  items : format = .json → ∀ ops, parseSource s = .ok ops → ∃ text items,
    parsed.printed = text ++ ['\n'] ∧ Json.read? text = some (.array items) ∧
      items.length = ops.length

/-- Whatever the source is and however each of the two runs is given it, `check` agrees with
`parse`, in the format of the settings or in one that is asked for. -/
theorem check_agrees_with_parse {env env' : Surroundings} {input input' : Text}
    {args args' : List Text} {level level' : LogLevel} {format : OutputFormat} {indexed : Bool}
    {s : Text} (h : Reaches env input args .check level checkOutput s)
    (h' : Reaches env' input' args' .parse level' (parseOutput format indexed) s) :
    Agreement s format (run env input args) (run env' input' args') := by
  rw [h.run_eq, h'.run_eq]
  cases hparse : parseSource s with
  | error e =>
    obtain ⟨message, hm⟩ := exists_diagnostic hparse
    obtain ⟨hcode, hcomplaints⟩ := outcome_of_error checkOutput level hparse hm
    obtain ⟨hcode', hcomplaints'⟩ :=
      outcome_of_error (parseOutput format indexed) level' hparse hm
    constructor
    case code_eq => rw [hcode, hcode']
    case code_eq_zero_iff => simp [hcode, hparse]
    case refused =>
      intro e' he
      obtain rfl : e = e' := Except.error.inj (hparse.symm.trans he)
      exact ⟨hcode, message, hm, hcomplaints, hcomplaints'⟩
    all_goals simp [hparse]
  | ok ops =>
    obtain ⟨hcode, hprinted⟩ := outcome_of_ok checkOutput level hparse
    obtain ⟨hcode', hprinted'⟩ := outcome_of_ok (parseOutput format indexed) level' hparse
    constructor
    case code_eq => rw [hcode, hcode']
    case code_eq_zero_iff => simp [hcode, hparse]
    case refused => simp [hparse]
    case counted =>
      intro ops' hops
      obtain rfl : ops = ops' := Except.ok.inj (hparse.symm.trans hops)
      rw [hprinted, printed_checkOutput]
    case lines =>
      rintro rfl ops' hops
      obtain rfl : ops = ops' := Except.ok.inj (hparse.symm.trans hops)
      rw [hprinted', length_lines_parseOutput hparse]
    case items =>
      rintro rfl ops' hops
      obtain rfl : ops = ops' := Except.ok.inj (hparse.symm.trans hops)
      exact ⟨_, _, hprinted'.trans (printed_parseOutput_json indexed ops),
        (Operation.read?_listToJson ops).2, List.length_map _⟩

/-- A folder with a source on two lines, which end in a carriage return and a line feed. -/
def namesFolder : Surroundings :=
  ⟨"/work".toList, (Folder.ofFiles [("names.txt".toList,
    [0x53, 0x68, 0x6F, 0x77, 0x20, 0x41, 0x6E, 0x6E, 0x0D, 0x0A, 0x4C, 0x65, 0x65, 0x2E])]).entry,
    []⟩

def checkNames : List Text := ["check".toList, "Show Ann\nLee.".toList]

def parseNames : List Text :=
  ["parse".toList, "--file".toList, "names.txt".toList, "--format".toList, "json".toList]

theorem check_agrees_brokenName :
    Reaches namesFolder [] checkNames .check .warning checkOutput "Show Ann\nLee.".toList ∧
      Reaches namesFolder [] parseNames .parse .warning (parseOutput .json true)
        "Show Ann\nLee.".toList ∧
      (run namesFolder [] checkNames).code = (run namesFolder [] parseNames).code ∧
      (run namesFolder [] checkNames).printed = countLine 1 ∧
      ∃ text items, (run namesFolder [] parseNames).printed = text ++ ['\n'] ∧
        Json.read? text = some (.array items) ∧ items.length = 1 := by
  have hcheck : Reaches namesFolder [] checkNames .check .warning checkOutput
      "Show Ann\nLee.".toList := by
    have hsettings : settingsFor namesFolder ⟨[], checkNames⟩ = .ok .defaults := rfl
    exact ⟨⟨[], checkNames⟩, ⟨[], ["Show Ann\nLee.".toList]⟩,
      ⟨by decide, by decide, by decide, ["Show Ann\nLee.".toList], by decide, rfl⟩,
      .check hsettings rfl, .argument rfl rfl⟩
  have hparse : Reaches namesFolder [] parseNames .parse .warning (parseOutput .json true)
      "Show Ann\nLee.".toList := by
    have hsettings : settingsFor namesFolder ⟨[], parseNames⟩ = .ok .defaults := rfl
    exact ⟨⟨[], parseNames⟩,
      ⟨[("--file".toList, "names.txt".toList), ("--format".toList, "json".toList)], []⟩,
      ⟨by decide, by decide, by decide, parseNames.tail, by decide, rfl⟩,
      .parse hsettings rfl rfl, .file rfl rfl rfl⟩
  have hagree := check_agrees_with_parse hcheck hparse
  exact ⟨hcheck, hparse, hagree.code_eq, hagree.counted _ parseSource_brokenName,
    hagree.items rfl _ parseSource_brokenName⟩

end CommandLine
end Roster
