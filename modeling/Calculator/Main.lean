import Calculator.Command

/-!
# The program

Reads the file that the arguments ask for, if any, and writes what the command answers.
-/

/-- Run the command. -/
def main (args : List String) : IO UInt32 := do
  let contents? ←
    match Calculator.Command.wantedFile? args with
    | none => pure none
    | some name => try some <$> IO.FS.readBinFile name catch _ => pure none
  let response := Calculator.Command.respond args contents?
  IO.print response.stdout
  IO.eprint response.stderr
  return response.exitCode.toUInt32
