import CardReader.Flash.Controller.Config
import CardReader.Flash.Sequence

/-!
# Set-up, identification, status and power

The operations of the controller that move no data: applying the device parameters, reading the
identification and the status, writing status and parameter registers, resetting the part and
putting it to sleep.
-/

namespace CardReader.Flash

namespace Controller

variable {σ : Type} [Bus σ]

/-- Applies device parameters, those of the settings unless others are given, and empties the
FIFOs.  The answer is the settings with the parameters now in force. -/
def configure (config : ControllerConfig) (params : Option DeviceParams) :
    Op σ ControllerConfig := do
  let device := params.getD config.device
  Op.update (Bus.setDeviceParams device.encode)
  Op.update Bus.flushFifos
  return { config with device }

/-- Reads the JEDEC id. -/
def readId (config : ControllerConfig) : Op σ JedecId := Sequence.readJedecId config.poll

/-- Reads a status register. -/
def readStatus (config : ControllerConfig) (opcode : UInt8) : Op σ UInt8 :=
  Sequence.readStatus opcode config.poll

/-- Writes a status or parameter register and waits for it to take effect.  A value that does not
fit one byte is sent as two. -/
def writeParam (config : ControllerConfig) (opcode : UInt8) (value : UInt16) : Op σ Unit :=
  Sequence.writeStatus opcode value (if value.toNat > 0xFF then 2 else 1) config.poll

/-- Sends an opcode on its own. -/
def singleCommand (config : ControllerConfig) (opcode : UInt8) : Op σ Unit :=
  Sequence.singleCommand opcode .single config.poll

/-- Resets the part and waits for it to come back. -/
def softReset (config : ControllerConfig) (mode : BusMode) : Op σ Unit := do
  let features ← Op.inspect Bus.features
  Op.check (mode.check features)
  Sequence.singleCommand Opcode.resetEnable mode config.poll
  Sequence.singleCommand Opcode.reset mode config.poll
  Op.delay resetSettle

/-- Puts the part into deep power down. -/
def deepPowerDown (config : ControllerConfig) : Op σ Unit :=
  singleCommand config Opcode.deepPowerDown

/-- Wakes the part from deep power down. -/
def releasePowerDown (config : ControllerConfig) : Op σ Unit := do
  singleCommand config Opcode.releasePowerDown
  Op.delay releaseSettle

end Controller

end CardReader.Flash
