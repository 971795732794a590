import Roster.CommandLine.Run

/-! The program: reads the files that the arguments name, runs, and writes what the run gives. -/
namespace Roster.Main
open CommandLine

def usage : Text :=
  "Usage: eql [--version] [--config PATH] [--log-level LEVEL] parse|check|repl [ARGUMENTS]\n".toList

/-- The number of a system error, which some calls give negated. -/
def errorNumber (code : UInt32) : UInt32 := min code (0 - code)

/-- What a path leads to on this system. Error 20 stands for a path through a file, error 36 for an
overlong one. -/
def entryAt (path : Text) : IO Entry := do
  try
    let octets ← IO.FS.readBinFile (String.ofList path)
    return .file (octets.toList.map UInt8.toNat)
  catch
    | .noFileOrDirectory .. => return .missing
    | .inappropriateType _ code _ =>
      return if errorNumber code = 20 then .throughFile else .directory
    | e@(.invalidArgument _ code _) => if errorNumber code = 36 then return .overlong else throw e
    | e => throw e

def write (o : Output) : IO Unit := do
  let put (stream : IO.FS.Stream) (s : Text) : IO Unit := do
    stream.putStr (String.ofList s)
    stream.flush
  match o with
  | .out s => put (← IO.getStdout) s
  | .err s => put (← IO.getStderr) s
  | .log r => put (← IO.getStderr) (r.render (Text.ofNat (← IO.monoMsNow)))
  | .usage => put (← IO.getStderr) usage

def finish (o : Outcome) : IO UInt32 := do
  o.outputs.forM write
  o.crash.forM fun c => write (.err (c.message ++ ['\n']))
  return o.code.toUInt32

/-- The lines to answer next: those that are left, or those of another read. A read ends behind a
line feed or with the input, and carriage returns may end more lines in it. -/
def awaitLines (lines : List Text) : IO (List Text) := do
  if lines.isEmpty then
    let read ← (← IO.getStdin).getLine
    return Session.inputLines (Text.unifyLineEnds read.toList)
  else return lines

/-- Reads and answers lines until the input ends. The prompt stands in front of the read. -/
partial def converse (settings : Settings) (level : LogLevel) (pending lines : List Text) :
    IO UInt32 := do
  write (Session.promptOutput settings pending)
  match ← awaitLines lines with
  | [] =>
    write (.out ['\n'])
    return 0
  | line :: lines =>
    match Session.respond settings pending line with
    | (_, .error crash) => finish (.crashed [] crash)
    | (next, .ok outputs) =>
      (outputs.filter (Output.isShown level)).forM write
      converse settings level next lines

def readInput : IO Text := do
  let octets ← (← IO.getStdin).readBinToEnd
  match Text.decodeUtf8 (octets.toList.map UInt8.toNat) with
  | some s => return s
  | none => throw (IO.userError "standard input is not UTF-8")

end Roster.Main

open Roster Roster.CommandLine Roster.Main in
def main (args : List String) : IO UInt32 := do
  let args := args.map String.toList
  let directory := (← IO.currentDir).toString.toList
  let known ← (pathsOf args).mapM fun path => return (path, ← entryAt path)
  let env : Surroundings :=
    { directory
      entry := fun path => (known.lookup path).getD .missing
      facts := [("Platform".toList, "native".toList)] }
  match start env args with
  | .finished o => finish o
  | .reading go => finish (go (← readInput))
  | .session settings level => converse settings level [] []
