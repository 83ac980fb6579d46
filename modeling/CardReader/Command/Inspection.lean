import CardReader.Command.Basic
import CardReader.Flash.Controller.Basic
import CardReader.Text.Unsigned

/-!
# Identification, status and power

The commands that show what the part says about itself, write its status registers, reset it and
put it to sleep.
-/

namespace CardReader.Command

open Flash

variable {σ : Type} [Bus σ]

/-- The lines that describe an identification. -/
def describeId (id : JedecId) : List String :=
  let manufacturer := match id.vendor? with
    | some vendor =>
      ("Manufacturer: " ++ vendor.name) ::
        (if vendor.isSupported then []
          else ["Warning: " ++ vendor.name ++ " parts are not supported by this controller"])
    | none => ["Manufacturer: unknown (" ++ CommandFault.byte id.manufacturer ++ ")"]
  let capacity := match id.capacity? with
    | some size =>
      if 1024 * 1024 ≤ size then toString (size / (1024 * 1024)) ++ " MiB"
      else toString (size / 1024) ++ " KiB"
    | none => "unknown"
  ("JEDEC ID:     0x" ++ Hex.padded 6 id.raw) :: manufacturer ++ ["Capacity:     " ++ capacity]

/-- Shows the identification of the part. -/
def identify (config : ControllerConfig) : Command (Rig σ) Unit := do
  let id ← flash (Controller.readId config)
  if id.isBlank then throw .noPart
  (describeId id).forM print

/-! ## Status registers -/

/-- The number of a status register. -/
def registerNumber : StatusRegister → Nat
  | .one => 1
  | .two => 2
  | .three => 3

/-- The opcode that reads a status register. -/
def readOpcode : StatusRegister → UInt8
  | .one => Opcode.readStatus1
  | .two => Opcode.readStatus2
  | .three => Opcode.readStatus3

/-- The opcode that writes a status register. -/
def writeOpcode : StatusRegister → UInt8
  | .one => Opcode.writeStatus1
  | .two => Opcode.writeStatus2
  | .three => Opcode.writeStatus3

/-- The eight binary digits of a byte. -/
def binary (value : UInt8) : String :=
  String.ofList ((List.range 8).map fun i => if value.toNat.testBit (7 - i) then '1' else '0')

/-- The lines that describe the value of a status register. -/
def describeStatus (register : StatusRegister) (value : UInt8) : List String :=
  let bit (mask : UInt8) : String := LogText.truth (value &&& mask != 0)
  let bits := match register with
    | .one =>
      ["  WIP=" ++ bit StatusBit.writeInProgress ++ " WEL=" ++ bit StatusBit.writeEnableLatch]
    | .two => ["  QE=" ++ bit StatusBit.quadEnable ++ " SUS=" ++ bit StatusBit.suspended]
    | .three => []
  ("SR" ++ toString (registerNumber register) ++ ": " ++ CommandFault.byte value ++ " (" ++
    binary value ++ ")") :: bits

/-- Writes a value to a status register. -/
def writeStatus (config : ControllerConfig) (register : StatusRegister) (value : Nat) :
    Command (Rig σ) Unit := do
  if Unsigned.greatest 16 < value then throw (.valueTooLarge value)
  flash (Controller.writeParam config (writeOpcode register) (UInt16.ofNat value))
  print ("Wrote 0x" ++ Hex.padded 2 value ++ " to SR" ++ toString (registerNumber register))

/-- Shows a status register, after writing a value to it if one is given. -/
def status (config : ControllerConfig) (register : StatusRegister) (write : Option Nat) :
    Command (Rig σ) Unit := do
  write.forM (writeStatus config register)
  let value ← flash (Controller.readStatus config (readOpcode register))
  (describeStatus register value).forM print

/-! ## Reset and power -/

/-- Resets the part. -/
def reset (config : ControllerConfig) : Command (Rig σ) Unit := do
  flash (Controller.softReset config .single)
  print "Flash reset"

/-- Puts the part into deep power down. -/
def powerDown (config : ControllerConfig) : Command (Rig σ) Unit := do
  flash (Controller.deepPowerDown config)
  print "Flash in deep power down"

/-- Wakes the part and shows its identification. -/
def wake (config : ControllerConfig) : Command (Rig σ) Unit := do
  flash (Controller.releasePowerDown config)
  let id ← flash (Controller.readId config)
  print ("Flash awake: " ++ id.display)

end CardReader.Command
