import CardReader.Flash.Controller.Config
import CardReader.Flash.Sequence

/-!
# Erasing

Erasing a sector, a block or the whole part.  Each erase is armed by a write enable and is over
once the part is ready again; a failure on the way is reported as a failure of the erase.
-/

namespace CardReader.Flash

namespace Controller

variable {σ : Type} [Bus σ]

/-- The failure of an erase at `addr`: a part that stays busy timed out, and a command that never
completes was refused. -/
def eraseFailure (addr : Nat) : Failure → Failure
  | .busyTimeout => .eraseTimeout addr
  | .commandTimeout _ => .eraseRefused addr
  | other => other

/-- Sends one erase command, which counts as an erase at `addr`, and waits until it is done. -/
def eraseWith (config : ControllerConfig) (command : Command) (addr : Nat) : Op σ Unit :=
  Op.mapFailure (eraseFailure addr) do
    Sequence.writeEnable .single config.poll
    let _ ← Sequence.transact command config.poll
    Sequence.waitReady config.poll

/-- Erases the sector that holds an address. -/
def eraseSector (config : ControllerConfig) (addr : Nat) : Op σ Unit := do
  Op.check (checkAddress addr)
  eraseWith config (Command.erase Opcode.sectorErase addr) addr

/-- Erases the small block that holds an address. -/
def eraseBlock32 (config : ControllerConfig) (addr : Nat) : Op σ Unit := do
  Op.check (checkAddress addr)
  eraseWith config (Command.erase Opcode.block32Erase addr) addr

/-- Erases the large block that holds an address. -/
def eraseBlock64 (config : ControllerConfig) (addr : Nat) : Op σ Unit := do
  Op.check (checkAddress addr)
  eraseWith config (Command.erase Opcode.block64Erase addr) addr

/-- Erases the whole part.  Nothing else may be in flight then, so the part has to be ready
first. -/
def eraseChip (config : ControllerConfig) : Op σ Unit := do
  Op.mapFailure (eraseFailure 0) (Sequence.waitReady config.poll)
  eraseWith config (Command.simple Opcode.chipErase) 0

end Controller

end CardReader.Flash
