import CardReader.Part.Config
import CardReader.Text.Quantity
import CardReader.Toml.Decode
import CardReader.Toml.Document

/-!
# The configuration file of a part

How a file describes a part.  Every setting has a default and other entries do not count.  The
JEDEC id and the size may be given as text as well as by a number.
-/

namespace CardReader

open Toml

/-- A natural number of so many bits. -/
def natural? (bits : Nat) (value : Value) : Option Nat := value.natural? (Unsigned.greatest bits)

namespace PollPolicy

/-- The fields of a policy. -/
def fieldNames : List String := ["timeout_us", "interval_us"]

/-- The policy that a value describes. -/
def ofValue? (value : Value) : Option PollPolicy := do
  let record ← value.record? fieldNames
  let default : PollPolicy := {}
  return {
    timeout := ← field? record "timeout_us" (natural? 64) default.timeout
    interval := ← field? record "interval_us" (natural? 32) default.interval }

end PollPolicy

namespace Flash

namespace DeviceParams

/-- The fields of device parameters. -/
def fieldNames : List String :=
  ["sample_delay", "sample_phase", "protocol", "dummy_cycles", "freq_sel", "latency"]

/-- The device parameters that a value describes. -/
def ofValue? (value : Value) : Option DeviceParams := do
  let record ← value.record? fieldNames
  let default : DeviceParams := {}
  let cycles ← field? record "dummy_cycles" (natural? 8) default.dummyCycles.toNat
  let latency ← field? record "latency" (natural? 16) default.latency.toNat
  return {
    sampleDelay := ← field? record "sample_delay" Value.boolean? default.sampleDelay
    samplePhase := ← field? record "sample_phase" Value.boolean? default.samplePhase
    protocol := ← field? record "protocol" (Value.choice? SpiMode.ofName?) default.protocol
    dummyCycles := UInt8.ofNat cycles
    divider := ← field? record "freq_sel" (Value.choice? ClockDivider.ofName?) default.divider
    latency := UInt16.ofNat latency }

end DeviceParams

namespace ControllerConfig

/-- The fields of controller settings. -/
def fieldNames : List String := ["poll", "program_mode", "read_mode", "dma_channel", "device"]

/-- The controller settings that a value describes. -/
def ofValue? (value : Value) : Option ControllerConfig := do
  let record ← value.record? fieldNames
  let default : ControllerConfig := {}
  let mode? := Value.choice? BusMode.ofName?
  return {
    poll := ← field? record "poll" PollPolicy.ofValue? default.poll
    programMode := ← field? record "program_mode" mode? default.programMode
    readMode := ← field? record "read_mode" mode? default.readMode
    dmaChannel := ← field? record "dma_channel" (natural? 8) default.dmaChannel
    device := ← field? record "device" DeviceParams.ofValue? default.device }

end ControllerConfig

end Flash

namespace Part.Config

/-- A number of 32 bits, as an integer or as text that `read?` understands. -/
def quantity? (read? : String → Option Nat) : Value → Option Nat
  | .string text => read? text
  | value => natural? 32 value

/-- The configuration that the table of a file describes. -/
def ofTable? (table : Table) : Option Config := do
  let default : Config := {}
  let number? (text : String) : Option Nat := (Quantity.parseNumber text).toOption
  let size? (text : String) : Option Nat := (Quantity.parseSize text).toOption
  let word (name : String) (default : Nat) : Option Nat :=
    field? table name (natural? 64) default
  let flag (name : String) (default : Bool) : Option Bool :=
    field? table name Value.boolean? default
  let jedecId ← field? table "jedec_id" (quantity? number?) default.jedecId.toNat
  let image ← field? table "image" (fun value => value.string?.map some) default.image
  return {
    jedecId := UInt32.ofNat jedecId
    size := ← field? table "size" (quantity? size?) default.size
    pageProgramTime := ← word "page_program_us" default.pageProgramTime
    sectorEraseTime := ← word "sector_erase_us" default.sectorEraseTime
    block32EraseTime := ← word "block32_erase_us" default.block32EraseTime
    block64EraseTime := ← word "block64_erase_us" default.block64EraseTime
    chipEraseTime := ← word "chip_erase_us" default.chipEraseTime
    writeStatusTime := ← word "write_status_us" default.writeStatusTime
    resetRecoveryTime := ← word "reset_recovery_us" default.resetRecoveryTime
    releaseTime := ← word "release_us" default.releaseTime
    readDepth := ← word "rx_fifo_depth" default.readDepth
    writeDepth := ← word "tx_fifo_depth" default.writeDepth
    dmaChannels := ← field? table "dma_channels" (natural? 8) default.dmaChannels
    dual := ← flag "dual" default.dual
    quad := ← flag "quad" default.quad
    image
    controller :=
      ← field? table "controller" Flash.ControllerConfig.ofValue? default.controller }

/-- Why the text of a file gives no configuration. -/
inductive TextFault where
  /-- The text is not well formed, or an entry has the wrong type. -/
  | malformed
  /-- The configuration is unusable. -/
  | unusable (defect : Defect)
  deriving DecidableEq

/-- The configuration that the text of a file describes. -/
def parse (text : String) : Except TextFault Config :=
  match (Toml.parse? text).bind ofTable? with
  | none => .error .malformed
  | some config =>
    match config.validate with
    | .error defect => .error (.unusable defect)
    | .ok () => .ok config

end Part.Config

end CardReader
