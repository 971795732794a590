import Roster.Proofs.StatementSequence
import Roster.Settings

/-! Settings files that cannot be loaded. What the settings say can be wrong in many ways, and each
is a complaint; loading fails otherwise only where the means of reading the file do. -/
namespace Roster

theorem Entry.read_eq_ok {e : Entry} {s : Text} (h : e.read = .ok s) :
    ∃ octets t, e = .file octets ∧ Text.decodeUtf8 octets = some t ∧ s = Text.unifyLineEnds t := by
  cases e with
  | file octets =>
    cases hd : Text.decodeUtf8 octets with
    | none => simp [read, hd] at h
    | some t => exact ⟨octets, t, rfl, hd, by simpa [read, hd] using h.symm⟩
  | missing | throughFile | overlong | directory => cases h

theorem Entry.read_eq_undecodable_iff {e : Entry} :
    e.read = .error .undecodable ↔ ∃ octets, e = .file octets ∧ Text.decodeUtf8 octets = none := by
  cases e with
  | file octets => cases hd : Text.decodeUtf8 octets <;> simp [read, hd]
  | missing | throughFile | overlong | directory => simp [read]

/-- What a settings file can be so that the means of reading it fail: no file, no text, or a
document with an integer that is too long or with values that nest too deep. -/
inductive Unloadable : Entry → Prop
  | overlong : Unloadable .overlong
  | directory : Unloadable .directory
  | undecodable {octets : List Nat} (hd : Text.decodeUtf8 octets = none) : Unloadable (.file octets)
  | faulty {octets : List Nat} {s : Text} {fault : Toml.Fault}
      (hd : Text.decodeUtf8 octets = some s)
      (hf : Toml.read (Text.unifyLineEnds s) = .error fault) (hne : fault ≠ .malformed) :
      Unloadable (.file octets)

namespace Settings

/-- A file that cannot be loaded is no matter of complaint. -/
theorem ofEntry_of_unloadable (path : Text) {e : Entry} (h : Unloadable e) :
    ∃ error, ofEntry path e = .error error ∧ error.isComplaint = false := by
  cases h with
  | overlong => exact ⟨.unreadable path .overlong, rfl, rfl⟩
  | directory => exact ⟨.unreadable path .directory, rfl, rfl⟩
  | undecodable hd =>
    have hread := Entry.read_eq_undecodable_iff.2 ⟨_, rfl, hd⟩
    exact ⟨.unreadable path .undecodable, by rw [ofEntry, hread]; rfl, rfl⟩
  | @faulty octets s fault hd hf hne =>
    have hread : (Entry.file octets).read = .ok (Text.unifyLineEnds s) := by
      simp only [Entry.read, hd]
    refine ⟨.document path fault, ?_, ?_⟩
    · rw [ofEntry, Except.bind_eq_error]
      exact .inr ⟨_, Except.mapError_eq_ok.2 hread, by rw [hf]; rfl⟩
    · cases fault with
      | malformed => exact absurd rfl hne
      | longInteger | tooDeep => rfl

/-- Of what can go wrong with a file that is there, only that it cannot be loaded is no matter of
complaint. -/
theorem unloadable_of_ofEntry {path : Text} {e : Entry} {error : LoadError}
    (hmissing : e ≠ .missing) (hthrough : e ≠ .throughFile)
    (h : ofEntry path e = .error error) (hc : error.isComplaint = false) : Unloadable e := by
  rw [ofEntry, Except.bind_eq_error] at h
  rcases h with h | ⟨s, hs, h⟩
  · obtain ⟨fault, hread, -⟩ := Except.mapError_eq_error.1 h
    cases e with
    | missing => exact absurd rfl hmissing
    | throughFile => exact absurd rfl hthrough
    | overlong => exact .overlong
    | directory => exact .directory
    | file octets =>
      cases hd : Text.decodeUtf8 octets with
      | none => exact .undecodable hd
      | some t => simp [Entry.read, hd] at hread
  · -- the file is a text, so the fault is one of its document or of what the settings say
    obtain ⟨octets, t, rfl, hd, rfl⟩ := Entry.read_eq_ok (Except.mapError_eq_ok.1 hs)
    rcases Except.bind_eq_error.1 h with h | ⟨doc, -, h⟩
    · obtain ⟨fault, hf, rfl⟩ := Except.mapError_eq_error.1 h
      refine .faulty hd hf ?_
      rintro rfl
      cases hc
    · obtain ⟨fault, -, rfl⟩ := Except.mapError_eq_error.1 h
      cases hc

/-- How the path of a settings file is shown. -/
def shownPath (directory : Text) : Option Text → Text
  | some path => Path.normal path
  | none => directory ++ '/' :: fileName

theorem load_of_present {entry : Text → Entry} {named : Option Text}
    (hmissing : entry (named.getD fileName) ≠ .missing)
    (hthrough : entry (named.getD fileName) ≠ .throughFile) (directory : Text) :
    load entry directory named =
      (ofEntry (shownPath directory named) (entry (named.getD fileName))).map fun settings =>
        (settings, some (shownPath directory named)) := by
  cases named with
  | none | some path =>
    simp only [Option.getD_some, Option.getD_none] at hmissing hthrough ⊢
    simp only [load, shownPath]
    cases ofEntry _ _ <;> rfl

theorem load_of_absent {entry : Text → Entry} {named : Option Text}
    (h : entry (named.getD fileName) = .missing ∨ entry (named.getD fileName) = .throughFile)
    (directory : Text) :
    load entry directory named =
      match named with
      | some path => .error (.absent (Path.normal path))
      | none => .ok (defaults, none) := by
  cases named with
  | none | some path =>
    simp only [Option.getD_some, Option.getD_none] at h
    rcases h with h | h <;> simp only [load, h] <;> rfl

/-- Loading fails, other than with a complaint, exactly if the file cannot be loaded. -/
theorem unloadable_iff_load (entry : Text → Entry) (directory : Text) (named : Option Text) :
    Unloadable (entry (named.getD fileName)) ↔
      ∃ error, load entry directory named = .error error ∧ error.isComplaint = false := by
  by_cases habsent : entry (named.getD fileName) = .missing ∨
      entry (named.getD fileName) = .throughFile
  · refine iff_of_false ?_ ?_
    · rcases habsent with he | he <;> rw [he] <;> rintro ⟨⟩
    · rw [load_of_absent habsent]
      cases named <;> simp [LoadError.isComplaint]
  · rw [not_or] at habsent
    rw [load_of_present habsent.1 habsent.2]
    constructor
    · intro h
      obtain ⟨error, herror, hc⟩ := ofEntry_of_unloadable (shownPath directory named) h
      exact ⟨error, by rw [herror]; rfl, hc⟩
    · rintro ⟨error, h, hc⟩
      cases herror : ofEntry (shownPath directory named) (entry (named.getD fileName)) with
      | ok settings =>
        rw [herror] at h
        cases h
      | error error' =>
        rw [herror] at h
        cases h
        exact unloadable_of_ofEntry habsent.1 habsent.2 herror hc

end Settings
end Roster
