import Roster.Report
import Roster.Text.Emoji

/-! The interactive session. Lines are gathered until the input is complete; then it is answered as
a whole, and a new input begins. -/
namespace Roster.Session

/-- Lines of an input, joined. -/
def joined (lines : List Text) : Text := ['\n'].intercalate lines

/-- Takes a line: the input that goes on, and the one that is complete. A blank line is passed over
while no input has begun. -/
def feed (pending : List Text) (line : Text) : List Text × Option Text :=
  if pending.isEmpty && line.all Text.isMargin then ([], none)
  else
    let lines := pending ++ [line]
    if isComplete (joined lines) then ([], some (joined lines)) else (lines, none)

/-- The complete inputs of a session, and the lines left over. -/
def submissions (pending : List Text) : List Text → List Text × List Text
  | [] => ([], pending)
  | line :: lines =>
    let (next, source) := feed pending line
    let (sources, left) := submissions next lines
    (source.toList ++ sources, left)

/-- What an input is answered with. -/
def answer (settings : Settings) (source : Text) : Except Crash (List Output) :=
  let read := (LogRecord.ofSource source).map Output.log
  match parseSource source with
  | .ok ops => .ok (read ++ reportOperations settings.format settings.indexed ops)
  | .error e => return read ++ .log (.refused source) :: (← reportError e)

/-- The prompt in front of a read. Only prompts may name emoji. -/
def promptOutput (settings : Settings) (pending : List Text) : Output :=
  let prompt := if pending.isEmpty then settings.prompt else settings.continuationPrompt
  .out prompt.replaceEmoji.displayed

/-- Takes a line and answers the input that it completes, if it completes one. -/
def respond (settings : Settings) (pending : List Text) (line : Text) :
    List Text × Except Crash (List Output) :=
  match feed pending line with
  | (next, none) => (next, .ok [])
  | (next, some source) => (next, answer settings source)

/-- What a session writes, up to a crash. A prompt stands in front of every read. -/
def transcript (settings : Settings) (pending : List Text) :
    List Text → List Output × Option Crash
  | [] => ([promptOutput settings pending, .out ['\n']], none)
  | line :: lines =>
    match respond settings pending line with
    | (_, .error crash) => ([promptOutput settings pending], some crash)
    | (next, .ok outputs) =>
      let (others, crash) := transcript settings next lines
      (promptOutput settings pending :: outputs ++ others, crash)

/-- The lines of a text, each without its line feed. -/
def inputLines (s : Text) : List Text := s.lines.map (Text.trimEnd (· == '\n'))

end Roster.Session
