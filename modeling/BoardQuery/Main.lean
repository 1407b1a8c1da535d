import BoardQuery.CommandLine.Run
import Std.Time.DateTime.Timestamp

/-!
# The program

Runs the command that the words of the command line make, on a store that lives as long as the run,
and prints what there is to tell.
-/

namespace BoardQuery

/-- The present moment. -/
def clockMoment : IO Moment := do
  let t ← Std.Time.Timestamp.now
  return (Moment.ofEpoch? t.toSecondsSinceUnixEpoch.val).getD Moment.first

end BoardQuery

def main (words : List String) : IO UInt32 := do
  let now ← BoardQuery.clockMoment
  let (run, _) := BoardQuery.runWords now BoardQuery.Store.empty words
  for line in run.printed.toLines do
    IO.println line
  return run.exitCode.toUInt32
