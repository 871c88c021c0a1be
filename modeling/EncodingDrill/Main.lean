import EncodingDrill.Drill.Menu

/-!
# The tutor on a terminal

The command line plays the menu session (`Drill.menu`) on standard input: every line typed is
one answer, and the questions are drawn from the system's random numbers.  The session is pure,
so the answers are read first and the transcript is written once the session is over; a
session that runs out of answers at a menu prompt ends as a terminal session does at the end
of its input, with an error and exit status 1.

* `readAnswers`: the lines of standard input without their line ends.
* `randomDraws`: enough draws for every question the answers can reach.
* `main`: the session, its transcript, and its end.
-/

namespace EncodingDrill

namespace Cli

/-- The lines of a stream, without their line ends, until the stream ends. -/
partial def readAnswers (stream : IO.FS.Stream) (acc : Array String) : IO (List String) := do
  let line ← stream.getLine
  if line.isEmpty then return acc.toList
  let text := String.ofList (line.toList.filter fun c => c != '\n' && c != '\r')
  readAnswers stream (acc.push text)

/-- Draws of chance for a session on a number of answers: every question takes an answer and
at most a few draws, so sixteen draws per answer never run short. -/
def randomDraws (answers : Nat) : IO (List Int) :=
  (List.range (16 * (answers + 1))).mapM fun _ => do
    return Int.ofNat (← IO.rand 0 1073741823)

def faultLine (f : Fault) : String :=
  if f.cls == .eofError then "EOFError: EOF when reading a line"
  else if f.message.isEmpty then f.cls.name
  else f.cls.name ++ ": " ++ f.message

end Cli

end EncodingDrill

def main : IO UInt32 := do
  let answers ← EncodingDrill.Cli.readAnswers (← IO.getStdin) #[]
  let chance ← EncodingDrill.Cli.randomDraws answers.length
  let stdout ← IO.getStdout
  match EncodingDrill.Drill.menu.run { chance := chance, answers := answers } with
  | .ok _ s =>
    stdout.putStr s.transcript
    stdout.flush
    return 0
  | .error f s =>
    stdout.putStr s.transcript
    stdout.flush
    (← IO.getStderr).putStrLn (EncodingDrill.Cli.faultLine f)
    return 1
