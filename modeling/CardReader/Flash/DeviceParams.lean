/-!
# Device parameters

The settings of the controller towards the part, which go into one 32-bit register.
-/

namespace CardReader.Flash

/-- Polarity and phase of the bus clock. -/
inductive SpiMode where
  /-- Idle low, sampled on the first edge. -/
  | mode0
  /-- Idle high, sampled on the second edge. -/
  | mode3
  deriving DecidableEq

/-- The bus clock as a fraction of the core clock. -/
inductive ClockDivider where
  | div2
  | div3
  | div4
  deriving DecidableEq

namespace SpiMode

/-- Every mode. -/
def all : List SpiMode := [mode0, mode3]

/-- The value of the register field. -/
def code : SpiMode → Nat
  | mode0 => 0
  | mode3 => 3

/-- The name of a mode in configurations. -/
def name : SpiMode → String
  | mode0 => "mode0"
  | mode3 => "mode3"

/-- The mode of a given name. -/
def ofName? (name : String) : Option SpiMode := all.find? fun mode => mode.name == name

end SpiMode

namespace ClockDivider

/-- Every divider. -/
def all : List ClockDivider := [div2, div3, div4]

/-- The value of the register field. -/
def code : ClockDivider → Nat
  | div2 => 1
  | div3 => 2
  | div4 => 3

/-- The name of a divider in configurations. -/
def name : ClockDivider → String
  | div2 => "div2"
  | div3 => "div3"
  | div4 => "div4"

/-- The divider of a given name. -/
def ofName? (name : String) : Option ClockDivider := all.find? fun d => d.name == name

end ClockDivider

/-- What the device parameter register holds. -/
structure DeviceParams where
  /-- Sampling of read data is delayed by half a cycle. -/
  sampleDelay : Bool := false
  /-- Read data is sampled on the opposite clock edge. -/
  samplePhase : Bool := true
  /-- Clock polarity and phase. -/
  protocol : SpiMode := .mode0
  /-- Dummy cycles of fast reads, of which the register keeps four bits. -/
  dummyCycles : UInt8 := 6
  /-- The clock divider. -/
  divider : ClockDivider := .div3
  /-- Core clock cycles per microsecond. -/
  latency : UInt16 := 192
  deriving DecidableEq

/-- The register word: the divider in bits 0 and 1, dummy cycles from bit 4, the protocol from
bit 8, the sampling phase and delay in bits 14 and 15, and the latency from bit 16. -/
def DeviceParams.encode (params : DeviceParams) : UInt32 :=
  UInt32.ofNat <|
    params.latency.toNat * 0x10000 + (if params.sampleDelay then 0x8000 else 0) +
      (if params.samplePhase then 0x4000 else 0) + params.protocol.code * 0x100 +
      params.dummyCycles.toNat % 16 * 0x10 + params.divider.code

end CardReader.Flash
