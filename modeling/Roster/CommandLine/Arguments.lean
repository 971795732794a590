import Roster.Text.Basic

/-! Command line arguments. An option takes a value or none; a value may stand in the next argument,
behind an equals sign, or right behind a short option. Two dashes end the options. -/
namespace Roster.CommandLine

/-- An option by its long and short names; the short name may be absent. -/
structure OptionSpec where
  long : Text
  short : Option Char
  takesValue : Bool
  deriving DecidableEq, Repr

/-- What the arguments say: options in order of appearance, by their long names, and the rest. -/
structure Parsed where
  options : List (Text × Text)
  positional : List Text
  deriving DecidableEq, Repr

namespace Parsed

/-- The value of an option; the last one given counts. -/
def value? (p : Parsed) (long : Text) : Option Text := p.options.reverse.lookup long

def has (p : Parsed) (long : Text) : Bool := (p.value? long).isSome

def addOption (long value : Text) (p : Parsed) : Parsed :=
  { p with options := (long, value) :: p.options }

def addOptions (options : List (Text × Text)) (p : Parsed) : Parsed :=
  { p with options := options ++ p.options }

def addPositional (s : Text) (p : Parsed) : Parsed := { p with positional := s :: p.positional }

end Parsed

/-- An argument in front of its first equals sign, and the value behind it. -/
def splitEquals (s : Text) : Text × Option Text :=
  match s.dropWhile (· != '=') with
  | [] => (s, none)
  | _ :: value => (s.takeWhile (· != '='), some value)

/-- Options that an argument gives, and whether the last still needs the next argument. -/
structure Reading where
  options : List (Text × Text)
  awaits : Option Text

/-- The letters of an argument such as `-vc`. -/
def readShort (specs : List OptionSpec) : Text → Option Reading
  | [] => some ⟨[], none⟩
  | c :: s => do
    let spec ← specs.find? fun o => o.short == some c
    if spec.takesValue then
      if s.isEmpty then return ⟨[], some spec.long⟩
      else return ⟨[(spec.long, s)], none⟩
    else
      let r ← readShort specs s
      return { r with options := (spec.long, []) :: r.options }

/-- An argument that begins with a dash. -/
def readOption (specs : List OptionSpec) (arg : Text) : Option Reading :=
  let (name, value) := splitEquals arg
  match specs.find? fun o => o.long == name with
  | some spec =>
    match spec.takesValue, value with
    | true, some v => some ⟨[(spec.long, v)], none⟩
    | true, none => some ⟨[], some spec.long⟩
    | false, none => some ⟨[(spec.long, [])], none⟩
    | false, some _ => none
  | none =>
    match arg with
    | '-' :: '-' :: _ => none
    | '-' :: s => readShort specs s
    | _ => none

/-- Reads arguments. Where options must come first, the first other argument ends them. -/
def parseArguments (specs : List OptionSpec) (optionsFirst : Bool) : List Text → Option Parsed
  | [] => some ⟨[], []⟩
  | arg :: args =>
    if arg = ['-', '-'] then some ⟨[], args⟩
    else if arg.head? = some '-' ∧ arg ≠ ['-'] then
      match readOption specs arg with
      | none => none
      | some r =>
        match r.awaits, args with
        | none, args => (parseArguments specs optionsFirst args).map (·.addOptions r.options)
        | some _, [] => none
        | some long, value :: args =>
          (parseArguments specs optionsFirst args).map
            (·.addOption long value |>.addOptions r.options)
    else if optionsFirst then some ⟨[], arg :: args⟩
    else (parseArguments specs optionsFirst args).map (·.addPositional arg)

end Roster.CommandLine
