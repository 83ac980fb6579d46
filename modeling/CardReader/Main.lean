import CardReader.CommandLine.Run

/-!
# The program

Runs the command line against the real files and the real output.
-/

open CardReader

/-- The fault that an error of the operating system stands for. -/
def fileFaultOf : IO.Error → FileFault
  | .noFileOrDirectory _ _ _ => .notFound
  | .inappropriateType _ code report =>
    if code = 20 then .notDirectory else if code = 21 then .isDirectory else .other report
  | error => .other (toString error)

/-- The outcome of an action on a file. -/
def attempt {α : Type} (action : IO α) : IO (Except FileFault α) :=
  tryCatch (.ok <$> action) fun error => return .error (fileFaultOf error)

/-- Runs an interaction against the real world. -/
def perform {α : Type} : Interaction α → IO α
  | .done answer => return answer
  | .read path next => do perform (next (← attempt (IO.FS.readBinFile path)))
  | .write path contents next => do perform (next (← attempt (IO.FS.writeBinFile path contents)))
  | .print line next => do
    IO.println line
    perform (next ())

/-- Runs the program; its code tells how it ended. -/
def main (words : List String) : IO UInt32 := do
  let exit ← perform (CommandLine.run words)
  exit.complaint?.forM IO.eprintln
  return UInt32.ofNat exit.code
