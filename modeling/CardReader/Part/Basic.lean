import CardReader.Flash.Bus
import CardReader.Part.Cells
import CardReader.Part.Config

/-!
# A simulated part

A serial NOR part together with the QSPI controller it hangs on.  Programming can only clear bits;
every program, erase and status write needs the write enable latch and clears it; a part that is
at work answers nothing but its status, and one that is recovering from a reset or asleep answers
even less.  Time comes from the clock that each call is given.
-/

namespace CardReader

open Flash

namespace Part

/-- Faults that can be switched on. -/
structure Faults where
  /-- The part stays busy for ever. -/
  stuckBusy : Bool := false
  /-- The controller never reports a transaction as over. -/
  unresponsive : Bool := false
  /-- DMA channels move their block but never report so. -/
  dmaStall : Bool := false
  deriving DecidableEq

/-- The last transaction. -/
inductive Transaction where
  /-- It is over and left this register value. -/
  | done (value : UInt32)
  /-- A page program at `addr` that still waits for data: `data` of `expected` bytes are there. -/
  | streaming (addr expected : Nat) (data : List UInt8)
  deriving DecidableEq

/-- A claimed DMA channel. -/
structure DmaClaim where
  /-- The channel. -/
  channel : Nat
  /-- What it still has to move. -/
  block : List UInt8 := []
  deriving DecidableEq

end Part

/-- A part and its controller. -/
structure Part where
  /-- The behaviour of the part. -/
  config : Part.Config
  /-- The array. -/
  cells : Part.Cells
  /-- The bits of status register 1 that are stored. -/
  status1 : UInt8 := 0
  /-- Status register 2. -/
  status2 : UInt8 := 0
  /-- Status register 3. -/
  status3 : UInt8 := 0
  /-- The write enable latch. -/
  writeEnabled : Bool := false
  /-- Whether the next command may be a reset. -/
  resetArmed : Bool := false
  /-- Whether the part is in deep power down. -/
  poweredDown : Bool := false
  /-- The part is at work before this instant. -/
  busyUntil : Nat := 0
  /-- The part is recovering before this instant. -/
  deafUntil : Nat := 0
  /-- The device parameter register. -/
  deviceParams : UInt32 := 0
  /-- The read FIFO. -/
  readFifo : List UInt8 := []
  /-- The write FIFO. -/
  writeFifo : List UInt8 := []
  /-- The claimed DMA channel. -/
  dma : Option Part.DmaClaim := none
  /-- The last transaction. -/
  transaction : Option Part.Transaction := none
  /-- Every command issued so far, oldest first. -/
  log : Array Command := #[]
  /-- The faults that are switched on. -/
  faults : Part.Faults := {}

namespace Part

/-! ## Making a part -/

/-- A part that is erased. -/
def new (config : Config) : Part := { config, cells := .erased config.size }

/-- A part that holds bytes from the start of its array on, as far as they fit. -/
def holding (config : Config) (bytes : ByteArray) : Part :=
  { config, cells := .holding config.size bytes }

/-- The image with the length of `image` does not fit the array. -/
structure ImageTooLarge where
  /-- Bytes in the image. -/
  imageSize : Nat
  /-- Bytes in the array. -/
  size : Nat
  deriving DecidableEq

/-- Replaces the array by an image; what the image does not cover is erased. -/
def loadImage (part : Part) (image : ByteArray) : Except ImageTooLarge Part :=
  if part.cells.size < image.size then .error ⟨image.size, part.cells.size⟩
  else .ok { part with cells := .holding part.cells.size image }

/-! ## Looking at a part -/

/-- What the controller can drive. -/
def features (part : Part) : BusFeatures :=
  { dma := decide (0 < part.config.dmaChannels), dual := part.config.dual, quad := part.config.quad }

/-- Whether the part is at work. -/
def busy (clock : Clock) (part : Part) : Bool :=
  part.faults.stuckBusy || decide (clock.now < part.busyUntil)

/-- Whether the part is recovering from a reset or from deep power down. -/
def deaf (clock : Clock) (part : Part) : Bool := decide (clock.now < part.deafUntil)

/-- A clock can show the instants until which the part is at work and recovering.  They are plain
sums, and where a counter as wide as that of a clock has to hold them, nothing goes on once one of
them does not fit. -/
def InstantsFit (part : Part) : Prop :=
  part.busyUntil ≤ lastInstant ∧ part.deafUntil ≤ lastInstant

instance (part : Part) : Decidable part.InstantsFit := inferInstanceAs (Decidable (_ ∧ _))

/-- Whether a DMA channel is claimed. -/
def dmaClaimed (part : Part) : Bool := part.dma.isSome

/-- How often an opcode has been issued. -/
def count (part : Part) (opcode : UInt8) : Nat :=
  part.log.foldl (fun n command => if command.opcode = opcode then n + 1 else n) 0

/-- The stored bits of a value for status register 1: all but the two live ones. -/
def storedStatusBits (value : UInt8) : UInt8 :=
  value &&& ~~~(StatusBit.writeInProgress ||| StatusBit.writeEnableLatch)

/-- Status register 1 as it is read: the stored bits, the write enable latch, and whether the part
is at work or recovering. -/
def liveStatus (clock : Clock) (part : Part) : UInt8 :=
  storedStatusBits part.status1 |||
    (if part.writeEnabled then StatusBit.writeEnableLatch else 0) |||
    (if part.busy clock || part.deaf clock then StatusBit.writeInProgress else 0)

/-- A status register as it is read. -/
def readStatus (clock : Clock) (part : Part) : StatusRegister → UInt8
  | .one => part.liveStatus clock
  | .two => part.status2
  | .three => part.status3

/-! ## Effects of commands -/

/-- The part is at work for `us` microseconds from now. -/
def workFor (clock : Clock) (us : Nat) (part : Part) : Part :=
  { part with busyUntil := clock.now + us }

/-- What the lines float to when nothing drives them: all ones, in the FIFO and in the register. -/
def float (command : Command) (part : Part) : UInt32 × Part :=
  let value := UInt32.ofNat (Nat.pow 2 (8 * command.format.registerReadLength) - 1)
  if command.format.fillsReadFifo then
    (value, { part with readFifo := List.replicate command.dataLength 0xFF })
  else (value, part)

/-- Fills the read FIFO from the array, which goes round to its start; more than the FIFO holds
cannot be asked for. -/
def fetch (command : Command) (part : Part) : Except Failure Unit × Part :=
  if part.config.readDepth < command.dataLength then (.error .fifoOverflow, part)
  else (.ok (), { part with readFifo := part.cells.slice command.address command.dataLength })

/-- Writes a status register, if the latch allows it. -/
def writeStatus (clock : Clock) (command : Command) (register : StatusRegister) (part : Part) :
    Part :=
  if part.writeEnabled then
    let value := command.writeData
    let written : Part :=
      match register with
      | .one =>
        { part with
          status1 := storedStatusBits value.toUInt8
          status2 :=
            if 2 ≤ command.format.registerWriteLength then (value >>> 8).toUInt8
            else part.status2 }
      | .two => { part with status2 := value.toUInt8 }
      | .three => { part with status3 := value.toUInt8 }
    workFor clock part.config.writeStatusTime { written with writeEnabled := false }
  else part

/-- Clears bits in a page from an offset on; bytes past the end of the page go to its start. -/
def clearPage (cells : Cells) (page offset : Nat) : List UInt8 → Cells
  | [] => cells
  | byte :: rest =>
    let place := (page + offset) % cells.size
    clearPage (cells.clearBits place byte) page ((offset + 1) % pageSize) rest

/-- Programs bytes at an address, if the latch allows it. -/
def program (clock : Clock) (addr : Nat) (data : List UInt8) (part : Part) : Part :=
  if part.writeEnabled then
    let offset := addr % pageSize
    let programmed : Part :=
      { part with
        cells := clearPage part.cells (addr - offset) offset data
        writeEnabled := false }
    workFor clock part.config.pageProgramTime programmed
  else part

/-- Erases the unit of `len` bytes that holds an address, if the latch allows it.  No unit is
larger than the array, and a unit starts where the bits below its size are clear. -/
def erase (clock : Clock) (addr len time : Nat) (part : Part) : Part :=
  if part.writeEnabled then
    let len := min len part.config.size
    let inside := addr % part.cells.size
    let start := inside - (inside &&& (len - 1))
    let erased : Part :=
      { part with cells := part.cells.erase start len, writeEnabled := false }
    workFor clock time erased
  else part

/-- Erases a unit. -/
def eraseUnit (clock : Clock) (addr : Nat) (unit : EraseUnit) (part : Part) : Part :=
  match unit with
  | .sector => part.erase clock addr sectorSize part.config.sectorEraseTime
  | .block32 => part.erase clock addr block32Size part.config.block32EraseTime
  | .block64 => part.erase clock addr block64Size part.config.block64EraseTime
  | .chip => part.erase clock 0 part.config.size part.config.chipEraseTime

/-- Resets the part, which then recovers for a while. -/
def reset (clock : Clock) (part : Part) : Part :=
  { part with
    writeEnabled := false
    status3 := 0
    busyUntil := 0
    readFifo := []
    writeFifo := []
    deafUntil := clock.now + part.config.resetRecoveryTime }

/-! ## Data for page programs -/

/-- Moves bytes towards a program that has `data` of `expected` bytes, first out of the write FIFO
and then out of the DMA block. -/
def pull (expected : Nat) (data : List UInt8) (part : Part) : List UInt8 × Part :=
  let wanted := expected - data.length
  let data := data ++ part.writeFifo.take wanted
  let part := { part with writeFifo := part.writeFifo.drop wanted }
  match part.dma with
  | none => (data, part)
  | some claim =>
    let wanted := expected - data.length
    (data ++ claim.block.take wanted,
      { part with dma := some { claim with block := claim.block.drop wanted } })

/-- Starts a page program with what data there is.  Without a data phase nothing happens. -/
def startProgram (clock : Clock) (command : Command) (part : Part) : Transaction × Part :=
  if command.format = .addressProgramData then
    let (data, part) := part.pull command.dataLength []
    if data.length < command.dataLength then
      (.streaming command.address command.dataLength data, part)
    else (.done 0, part.program clock command.address data)
  else (.done 0, part)

/-- Moves data into a page program that waits for it, and programs once all is there. -/
def feed (clock : Clock) (part : Part) : Part :=
  match part.transaction with
  | some (.streaming addr expected data) =>
    let (data, part) := part.pull expected data
    if data.length < expected then
      { part with transaction := some (.streaming addr expected data) }
    else { part.program clock addr data with transaction := some (.done 0) }
  | _ => part

/-! ## Commands -/

/-- The manufacturer byte and, below it, the device byte, which is one less than the capacity. -/
def manufacturerId (id : UInt32) : UInt32 :=
  (id >>> 8) &&& 0xFF00 ||| ((id &&& 0xFF) - 1) &&& 0xFF

/-- Lets a part that listens carry out an instruction.  `armed` tells whether a reset enable came
right before. -/
def perform (clock : Clock) (command : Command) (armed : Bool) (part : Part) :
    Except Failure Transaction × Part :=
  match command.instruction with
  | .writeEnable => (.ok (.done 0), { part with writeEnabled := true })
  | .writeDisable => (.ok (.done 0), { part with writeEnabled := false })
  | .readStatus register => (.ok (.done (part.readStatus clock register).toUInt32), part)
  | .writeStatus register => (.ok (.done 0), part.writeStatus clock command register)
  | .readJedecId => (.ok (.done (part.config.jedecId &&& 0xFFFFFF)), part)
  | .readManufacturer => (.ok (.done (manufacturerId part.config.jedecId)), part)
  | .read =>
    match part.fetch command with
    | (.ok (), part) => (.ok (.done 0), part)
    | (.error failure, part) => (.error failure, part)
  | .program =>
    let (transaction, part) := part.startProgram clock command
    (.ok transaction, part)
  | .erase unit => (.ok (.done 0), part.eraseUnit clock command.address unit)
  | .resetEnable => (.ok (.done 0), { part with resetArmed := true })
  | .reset => (.ok (.done 0), if armed then part.reset clock else part)
  | .deepPowerDown => (.ok (.done 0), { part with poweredDown := true })
  | .releasePowerDown | .suspend | .ignored => (.ok (.done 0), part)

/-- Whether a part at work carries out an instruction. -/
def answersWhileBusy : Instruction → Bool
  | .readStatus _ | .suspend => true
  | _ => false

/-- The lines float: the command is ignored. -/
def ignore (command : Command) (part : Part) : Except Failure Transaction × Part :=
  let (value, part) := part.float command
  (.ok (.done value), part)

/-- Lets the part see a command.  Asleep it hears nothing but its wake-up, recovering nothing but
a read of status register 1, and at work nothing but the reads of its status. -/
def execute (clock : Clock) (command : Command) (part : Part) :
    Except Failure Transaction × Part :=
  if part.poweredDown then
    if command.instruction = .releasePowerDown then
      (.ok (.done 0),
        { part with poweredDown := false, deafUntil := clock.now + part.config.releaseTime })
    else part.ignore command
  else if part.deaf clock then
    if command.instruction = .readStatus .one then
      (.ok (.done (part.liveStatus clock).toUInt32), part)
    else part.ignore command
  else
    let armed := part.resetArmed
    let part := { part with resetArmed := false }
    if part.busy clock && !answersWhileBusy command.instruction then part.ignore command
    else part.perform clock command armed

end Part

end CardReader
