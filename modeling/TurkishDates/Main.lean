import Std.Time.Zoned
import TurkishDates.CommandLine.Run

/-!
The program: it hands its arguments, the local time and, where it is needed, its input to the command
line, and prints the outcome.
-/

namespace TurkishDates

namespace CommandLine

def localTime : IO Moment := do
  let now ← Std.Time.PlainDateTime.now
  let time := do
    let date ← Date.ofParts? now.year.toInt now.month.toInt now.day.toInt
    let t ← Timestamp.ofParts? date now.hour.toInt now.minute.toInt now.second.toInt
    Moment.of? t now.nanosecond.toInt.toNat
  match time with
  | some time => return time
  | none => throw (IO.userError "the local clock is out of range")

partial def readLines (input : IO.FS.Stream) (done : String) : IO String := do
  let line ← input.getLine
  if line.isEmpty then return done
  readLines input (done ++ line)

def program (arguments : List String) : IO UInt32 := do
  let output ← IO.getStdout
  let surroundings : Surroundings := ⟨← localTime, ← output.isTty⟩
  let input ← if readsInput arguments then (readLines (← IO.getStdin) "").toBaseIO else pure (.ok "")
  match input with
  | .error error =>
      IO.eprintln ("error: failed to read stdin: " ++ toString error)
      return 2
  | .ok input =>
      let outcome := run surroundings arguments input
      output.putStr outcome.stdout
      IO.eprint outcome.stderr
      return outcome.code.toUInt32

end CommandLine

end TurkishDates

def main (arguments : List String) : IO UInt32 := TurkishDates.CommandLine.program arguments
