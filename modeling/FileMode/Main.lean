import FileMode.CommandLine.Outcome

/-!
# The command

Runs the command on the arguments it was called with, and ends with the status of the outcome.
-/

namespace FileMode

/-- The name under which the command is installed. -/
def installedName : String := "filemode"

/-- Writes an outcome to the two streams and gives its status. -/
def Outcome.write (outcome : Outcome) : IO UInt32 := do
  (← IO.getStdout).putStr outcome.output
  (← IO.getStderr).putStr outcome.errors
  return outcome.status.toUInt32

end FileMode

/-- Reports on the modes given as arguments, by the later edition. -/
def main (args : List String) : IO UInt32 :=
  (FileMode.Outcome.ofCall FileMode.installedName args .second).write
