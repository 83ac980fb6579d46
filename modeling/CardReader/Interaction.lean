import CardReader.Files

/-!
# Interactions

What a command asks of the world around it: reading and writing files, and printing lines.  An
interaction is a value, so it can be run against a directory that is itself a value as well as
against the real one.
-/

namespace CardReader

/-- An interaction that ends with an answer of type `α`. -/
inductive Interaction (α : Type) where
  /-- The answer. -/
  | done (answer : α)
  /-- Reads a file and goes on with its contents. -/
  | read (path : String) (next : Except FileFault ByteArray → Interaction α)
  /-- Writes a file and goes on with the outcome. -/
  | write (path : String) (contents : ByteArray) (next : Except FileFault Unit → Interaction α)
  /-- Prints a line and goes on. -/
  | print (line : String) (next : Unit → Interaction α)

namespace Interaction

variable {α β : Type}

/-- Goes on with the answer of an interaction. -/
protected def bind (interaction : Interaction α) (next : α → Interaction β) : Interaction β :=
  match interaction with
  | done answer => next answer
  | read path go => read path fun contents => (go contents).bind next
  | write path contents go => write path contents fun outcome => (go outcome).bind next
  | print line go => print line fun _ => (go ()).bind next

instance : Monad Interaction where
  pure := done
  bind := Interaction.bind

/-- Runs an interaction against a directory.  What it gives back is the answer, the lines printed
and the directory as it is then. -/
def run (interaction : Interaction α) (files : Files) : α × List String × Files :=
  match interaction with
  | done answer => (answer, [], files)
  | read path go => (go (files.read path)).run files
  | write path contents go =>
    match files.write path contents with
    | .ok files => (go (.ok ())).run files
    | .error fault => (go (.error fault)).run files
  | print line go =>
    let (answer, lines, files) := (go ()).run files
    (answer, line :: lines, files)

end Interaction

end CardReader
