import OrmCode.CommandLine.Run

/-!
# The program

The command line with real files, real input and real output.
-/

namespace OrmCode

/-- What is said of a failure to read. -/
def readFailure : IO.Error → String
  | .noFileOrDirectory _ code _ => "No such file or directory (os error " ++ toString code ++ ")"
  | failure => toString failure

/-- The text that an action reads, or what is said of its failure. -/
def attemptRead (read : IO String) : IO (Except String String) := do
  match ← read.toBaseIO with
  | .ok text => return .ok text
  | .error failure => return .error (readFailure failure)

/-- The files and the standard input of the process. -/
def processSystem : CommandLine.System IO where
  contentsOf path := attemptRead (IO.FS.readFile path)
  input := attemptRead (do (← IO.getStdin).readToEnd)

end OrmCode

/-- Runs the program with its arguments. -/
def main (arguments : List String) : IO UInt32 := do
  let outcome ← OrmCode.CommandLine.run OrmCode.processSystem arguments
  (← IO.getStdout).putStr outcome.output
  (← IO.getStderr).putStr outcome.errors
  return outcome.exitCode.toUInt32
