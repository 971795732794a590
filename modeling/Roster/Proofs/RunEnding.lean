import Roster.Proofs.Invocation
import Roster.Proofs.SettingsFile

/-! How a run of `parse` or `check` ends. It ends with operations, a diagnostic or a complaint,
unless a settings file is there that cannot be loaded, or the source is a file that is not UTF-8. -/
namespace Roster.CommandLine

/-- The ends of a run that are not a crash: the source is parsed, or its diagnostic is written, or
there is a complaint. -/
inductive Orderly (env : Surroundings) (input : Text) (own : Parsed) : Outcome → Prop
  | parsed {s : Text} {ops : List Operation} (outputs : List Output) (hs : Given env input own s)
      (hops : parseSource s = .ok ops) : Orderly env input own ⟨outputs, 0, none⟩
  | diagnosed {s message : Text} {e : SourceError} {outputs : List Output}
      (hs : Given env input own s) (he : parseSource s = .error e)
      (hm : e.diagnostic = .ok message) (hout : .err (displayedLine message) ∈ outputs) :
      Orderly env input own ⟨outputs, 1, none⟩
  | complained (message : Text) : Orderly env input own (.complaint message)

/-- What the settings file of a run is. -/
def settingsEntry (env : Surroundings) (root : Parsed) : Entry :=
  env.entry ((root.value? configOption.long).getD Settings.fileName)

/-- The source is a file that is not UTF-8. -/
def IsUndecodable (env : Surroundings) (own : Parsed) : Prop :=
  own.positional = [] ∧ ∃ path octets, own.value? fileOption.long = some path ∧
    env.entry path = .file octets ∧ Text.decodeUtf8 octets = none

variable {env : Surroundings} {input : Text} {args : List Text} {c : Command} {root own : Parsed}
  {settings : Settings} {level : LogLevel} {go : List Operation → List Output} {s : Text}
  {o : Outcome}

theorem Orderly.crash_eq (h : Orderly env input own o) : o.crash = none := by
  cases h <;> rfl

/-- Without settings there is a complaint, or a crash over a file that cannot be loaded. -/
theorem settingsFor_eq_error (h : settingsFor env root = .error o) :
    (∃ message, o = .complaint message) ∧ ¬Unloadable (settingsEntry env root) ∨
      (∃ error, o = .crashed [] (.unloaded error)) ∧ Unloadable (settingsEntry env root) := by
  rw [settingsEntry,
    Settings.unloadable_iff_load env.entry env.directory (root.value? configOption.long)]
  unfold settingsFor at h
  split at h
  next => cases h
  next error herror =>
    cases hc : error.isComplaint with
    | true =>
      simp only [hc, ↓reduceIte, Except.error.injEq] at h
      refine .inl ⟨⟨error.message, h.symm⟩, ?_⟩
      rintro ⟨error', herror', hc'⟩
      obtain rfl : error = error' := Except.error.inj (herror.symm.trans herror')
      simp [hc] at hc'
    | false =>
      simp only [hc, Bool.false_eq_true, ↓reduceIte, Except.error.injEq] at h
      exact .inr ⟨⟨error, h.symm⟩, error, herror, hc⟩

theorem not_unloadable_of_settingsFor (h : settingsFor env root = .ok settings) :
    ¬Unloadable (settingsEntry env root) := by
  rw [settingsEntry,
    Settings.unloadable_iff_load env.entry env.directory (root.value? configOption.long)]
  rintro ⟨error, herror, -⟩
  simp [settingsFor, herror] at h

theorem levelFor_eq_error (h : levelFor settings root = .error o) :
    ∃ message, o = .complaint message := by
  unfold levelFor at h
  split at h
  next => cases h
  next => cases h
  next =>
    split at h
    next => cases h
    next => exact ⟨_, (Except.error.inj h).symm⟩

theorem formatFor_eq_error (h : formatFor settings own = .error o) :
    ∃ message, o = .complaint message := by
  unfold formatFor at h
  split at h
  next => cases h
  next =>
    split at h
    next => cases h
    next => exact ⟨_, (Except.error.inj h).symm⟩

theorem Prepared.not_unloadable (h : Prepared env root own c level go) :
    ¬Unloadable (settingsEntry env root) := by
  cases h with
  | check hs | parse hs => exact not_unloadable_of_settingsFor hs

theorem sourceFor_cases (env : Surroundings) (input : Text) (own : Parsed) :
    (∃ s, sourceFor env input own = .ok s ∧ Given env input own s) ∧ ¬IsUndecodable env own ∨
      (∃ message, sourceFor env input own = .error (.complaint message)) ∧
        ¬IsUndecodable env own ∨
      (∃ path, sourceFor env input own = .error (.crashed [] (.undecodable path))) ∧
        IsUndecodable env own := by
  cases hp : own.positional with
  | cons s others =>
    have hdecodable : ¬IsUndecodable env own := by
      rintro ⟨hnil, -⟩
      rw [hp] at hnil
      cases hnil
    cases hf : own.value? fileOption.long with
    | none =>
      have hgiven : Given env input own s := .argument hp hf
      exact .inl ⟨⟨s, hgiven.sourceFor_eq, hgiven⟩, hdecodable⟩
    | some path =>
      simp only [sourceFor, givenSource, hp, hf, List.head?_cons]
      exact .inr (.inl ⟨⟨_, rfl⟩, hdecodable⟩)
  | nil =>
    cases hf : own.value? fileOption.long with
    | none =>
      have hgiven : Given env input own _ := .standardInput hp hf
      refine .inl ⟨⟨_, hgiven.sourceFor_eq, hgiven⟩, ?_⟩
      rintro ⟨-, path, octets, hpath, -⟩
      rw [hf] at hpath
      cases hpath
    | some path =>
      have hiff : IsUndecodable env own ↔ (env.entry path).read = .error .undecodable := by
        rw [Entry.read_eq_undecodable_iff]
        simp [IsUndecodable, hp, hf]
      rw [hiff]
      cases hr : (env.entry path).read with
      | ok s =>
        have hgiven : Given env input own s := .file hp hf hr
        exact .inl ⟨⟨s, hgiven.sourceFor_eq, hgiven⟩, by simp⟩
      | error fault =>
        simp only [sourceFor, givenSource, hp, hf, hr, List.head?_nil]
        cases fault with
        | undecodable => exact .inr (.inr ⟨⟨_, rfl⟩, rfl⟩)
        | missing | throughFile | overlong | directory =>
          exact .inr (.inl ⟨⟨_, rfl⟩, by simp⟩)

/-- A run that has its source ends with the operations or the diagnostic of it. -/
theorem orderly_of_given (go : List Operation → List Output) (level : LogLevel)
    (h : Given env input own s) :
    Orderly env input own ((withOperations go s).atLevel level) := by
  cases hparse : parseSource s with
  | ok ops =>
    rw [withOperations_of_ok go hparse]
    exact .parsed _ h hparse
  | error e =>
    obtain ⟨message, hm⟩ := exists_diagnostic hparse
    rw [withOperations_of_error go hparse hm]
    refine .diagnosed h hparse hm (List.mem_filter.2 ⟨by simp, rfl⟩)

/-- A run of `parse` or `check` crashes over its settings file, or over its source if it gets as
far as that. -/
def IsCutShort (env : Surroundings) (c : Command) (root own : Parsed) : Prop :=
  Unloadable (settingsEntry env root) ∨
    (∃ level go, Prepared env root own c level go) ∧ IsUndecodable env own

/-- A run that is prepared ends in order, unless its source is a file that is not UTF-8. -/
theorem Calls.ending_of_prepared (h : Calls args c root own)
    (hp : Prepared env root own c level go) (input : Text) :
    Orderly env input own (run env input args) ∧ ¬IsUndecodable env own ∨
      (∃ crash, run env input args = .crashed [] crash) ∧ IsUndecodable env own := by
  rw [h.run_of_prepared hp]
  rcases sourceFor_cases env input own with ⟨⟨s, hs, hgiven⟩, hu⟩ | ⟨⟨m, hs⟩, hu⟩ | ⟨⟨p, hs⟩, hu⟩
  · rw [hs]
    exact .inl ⟨orderly_of_given go level hgiven, hu⟩
  · rw [hs]
    exact .inl ⟨.complained m, hu⟩
  · rw [hs]
    exact .inr ⟨⟨_, rfl⟩, hu⟩

/-- A run that is not prepared ends over its settings or its options. -/
theorem Calls.ending_of_not_prepared (h : Calls args c root own) (hc : c ≠ .repl)
    (hp : ¬∃ level go, Prepared env root own c level go) (input : Text) :
    (∃ message, run env input args = .complaint message) ∧
        ¬Unloadable (settingsEntry env root) ∨
      (∃ crash, run env input args = .crashed [] crash) ∧
        Unloadable (settingsEntry env root) := by
  cases hs : settingsFor env root with
  | error o =>
    rw [h.run_of_settings hs]
    rcases settingsFor_eq_error hs with ⟨hm, hu⟩ | ⟨⟨error, ho⟩, hu⟩
    · exact .inl ⟨hm, hu⟩
    · exact .inr ⟨⟨_, ho⟩, hu⟩
  | ok settings =>
    refine .inl ⟨?_, not_unloadable_of_settingsFor hs⟩
    cases hl : levelFor settings root with
    | error o =>
      rw [h.run_of_level hs hl]
      exact levelFor_eq_error hl
    | ok level =>
      cases c with
      | repl => exact absurd rfl hc
      | check => exact absurd ⟨_, _, .check hs hl⟩ hp
      | parse =>
        cases hf : formatFor settings own with
        | error o =>
          rw [h.run_of_format hs hl hf]
          exact formatFor_eq_error hf
        | ok format => exact absurd ⟨_, _, .parse hs hl hf⟩ hp

/-- A run is prepared or not, and each way it ends in order or is cut short. -/
theorem Calls.ending (h : Calls args c root own) (hc : c ≠ .repl) (env : Surroundings)
    (input : Text) :
    Orderly env input own (run env input args) ∧ ¬IsCutShort env c root own ∨
      (∃ crash, run env input args = .crashed [] crash) ∧ IsCutShort env c root own := by
  by_cases hp : ∃ level go, Prepared env root own c level go
  · obtain ⟨level, go, hprepared⟩ := hp
    have hloadable := hprepared.not_unloadable
    -- it has its settings, so only the source is left to crash over
    rcases h.ending_of_prepared hprepared input with ⟨ho, hu⟩ | ⟨hcrash, hu⟩
    · refine .inl ⟨ho, ?_⟩
      rintro (hload | ⟨-, hund⟩)
      · exact hloadable hload
      · exact hu hund
    · exact .inr ⟨hcrash, .inr ⟨⟨level, go, hprepared⟩, hu⟩⟩
  · rcases h.ending_of_not_prepared hc hp input with ⟨⟨message, hm⟩, hu⟩ | ⟨hcrash, hu⟩
    · rw [hm]
      refine .inl ⟨.complained message, ?_⟩
      rintro (hload | ⟨hprepared, -⟩)
      · exact hu hload
      · exact hp hprepared
    · exact .inr ⟨hcrash, .inl hu⟩

/-- With arguments that are accepted, a run of `parse` or `check` ends in order, with exit code 0, 1
or 2 for what it has done, exactly if it is not cut short; otherwise it crashes. -/
theorem orderly_run_iff (h : Calls args c root own) (hc : c ≠ .repl) (env : Surroundings)
    (input : Text) :
    (Orderly env input own (run env input args) ↔ ¬IsCutShort env c root own) ∧
      ((run env input args).crash ≠ none ↔ IsCutShort env c root own) := by
  rcases h.ending hc env input with ⟨ho, hcut⟩ | ⟨⟨crash, hcrash⟩, hcut⟩
  · exact ⟨iff_of_true ho hcut, iff_of_false (fun hne => hne ho.crash_eq) hcut⟩
  · rw [hcrash]
    exact ⟨iff_of_false (fun ho => by cases ho.crash_eq) (fun hn => hn hcut),
      iff_of_true (by simp [Outcome.crashed]) hcut⟩

/-- A folder in which the settings file, if it is there, holds some octets. -/
def withSettings (octets : Option (List Nat)) : Surroundings :=
  ⟨"/work".toList,
    (Folder.ofFiles (octets.map fun octets => (Settings.fileName, octets)).toList).entry, []⟩

def checkSales : List Text := ["check".toList, "Show Sales.".toList]

theorem calls_checkSales :
    Calls checkSales .check ⟨[], checkSales⟩ ⟨[], ["Show Sales.".toList]⟩ :=
  ⟨by decide, by decide, by decide, ["Show Sales.".toList], by decide, rfl⟩

theorem orderly_checkSales :
    Calls checkSales .check ⟨[], checkSales⟩ ⟨[], ["Show Sales.".toList]⟩ ∧
      Command.check ≠ .repl ∧
      Orderly (withSettings none) [] ⟨[], ["Show Sales.".toList]⟩
        (run (withSettings none) [] checkSales) := by
  refine ⟨calls_checkSales, by decide,
    (orderly_run_iff calls_checkSales (by decide) (withSettings none) []).1.2 ?_⟩
  rintro (hload | ⟨-, hnil, -⟩)
  · have hmissing : settingsEntry (withSettings none) ⟨[], checkSales⟩ = .missing := by decide
    rw [hmissing] at hload
    cases hload
  · cases hnil

/-- A settings file that is no UTF-8 is no complaint: the run crashes. -/
theorem run_strayOctet :
    Calls checkSales .check ⟨[], checkSales⟩ ⟨[], ["Show Sales.".toList]⟩ ∧
      run (withSettings (some [0xFF])) [] checkSales =
        .crashed [] (.unloaded (.unreadable "/work/eql.toml".toList .undecodable)) ∧
      ¬Orderly (withSettings (some [0xFF])) [] ⟨[], ["Show Sales.".toList]⟩
        (run (withSettings (some [0xFF])) [] checkSales) := by
  have hrun : run (withSettings (some [0xFF])) [] checkSales =
      .crashed [] (.unloaded (.unreadable "/work/eql.toml".toList .undecodable)) := rfl
  refine ⟨calls_checkSales, hrun, fun h => ?_⟩
  rw [hrun] at h
  cases h.crash_eq

end Roster.CommandLine
