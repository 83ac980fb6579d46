import CardReader.Command.Basic
import CardReader.Flash.Controller.Erase
import CardReader.Flash.Controller.Program
import CardReader.Flash.Controller.Read

/-!
# Moving data

The commands that read the array into a file, erase it, and program a file into it.
-/

namespace CardReader.Command

open Flash

variable {σ : Type} [Bus σ]

/-! ## Reading -/

/-- Bytes that are read in one go. -/
def readBlock : Nat := 4096

/-- Reads `len` bytes in blocks, onto the bytes already read, which stand in reverse order. -/
def readBlocks (config : ControllerConfig) (addr len : Nat) (done : List UInt8) :
    Op σ (List UInt8) :=
  if _none : len = 0 then pure done.reverse
  else do
    let count := min readBlock len
    let block ← Controller.read config addr count
    readBlocks config (addr + count) (len - count) (block.reverseAux done)
termination_by len
decreasing_by
  simp only [readBlock]
  omega

/-- Reads a range. -/
def readRange (config : ControllerConfig) (addr len : Nat) : Op σ (List UInt8) := do
  Op.check (checkRange addr len)
  readBlocks config addr len []

/-- Reads a range into a file. -/
def read (config : ControllerConfig) (addr len : Nat) (output : String) :
    Command (Rig σ) Unit := do
  let data ← flash (readRange config addr len)
  writeFile output ⟨data.toArray⟩
  print ("Wrote " ++ toString data.length ++ " bytes to " ++ Quoted.quote output)

/-! ## Erasing -/

/-- What is to be erased. -/
inductive EraseTarget where
  /-- The sector that holds an address. -/
  | sector (addr : Nat)
  /-- The small block that holds an address. -/
  | block32 (addr : Nat)
  /-- The large block that holds an address. -/
  | block64 (addr : Nat)
  /-- The whole part. -/
  | chip
  deriving DecidableEq

/-- Tells that the unit of a size that holds an address has been erased. -/
def reportErased (unit : String) (size addr : Nat) : Command (Rig σ) Unit :=
  let start := addr / size * size
  print ("Erased " ++ unit ++ " 0x" ++ Hex.padded 6 start ++ "-0x" ++
    Hex.padded 6 (start + size - 1))

/-- Erases a unit of the array. -/
def erase (config : ControllerConfig) : EraseTarget → Command (Rig σ) Unit
  | .sector addr => do
    flash (Controller.eraseSector config addr)
    reportErased "sector" sectorSize addr
  | .block32 addr => do
    flash (Controller.eraseBlock32 config addr)
    reportErased "32KB block" block32Size addr
  | .block64 addr => do
    flash (Controller.eraseBlock64 config addr)
    reportErased "64KB block" block64Size addr
  | .chip => flash (Controller.eraseChip config)

/-- Erases the sectors from `start` up to `stop`, and large blocks where they fit. -/
def eraseSectors (config : ControllerConfig) (start stop : Nat) : Op σ Unit :=
  if _none : stop ≤ start then pure ()
  else if start % block64Size = 0 ∧ block64Size ≤ stop - start then do
    Controller.eraseBlock64 config start
    eraseSectors config (start + block64Size) stop
  else do
    Controller.eraseSector config start
    eraseSectors config (start + sectorSize) stop
termination_by stop - start
decreasing_by
  · simp only [block64Size]; omega
  · simp only [sectorSize]; omega

/-- Erases every sector that a range touches. -/
def eraseRange (config : ControllerConfig) (addr len : Nat) : Op σ Unit :=
  eraseSectors config (addr / sectorSize * sectorSize)
    ((addr + len + sectorSize - 1) / sectorSize * sectorSize)

/-! ## Programming -/

/-- How a file is programmed. -/
structure WriteOptions where
  /-- The data goes out by DMA. -/
  useDma : Bool := false
  /-- The transform that is applied to it. -/
  cipher : CipherMode := .none
  /-- The sectors are erased first. -/
  erase : Bool := false
  /-- The data is read back and compared. -/
  verify : Bool := false
  deriving DecidableEq

/-- The first place where two lists differ, up to the end of the shorter, if `offset` elements have
been compared before. -/
def firstDifference (offset : Nat) (expected got : List UInt8) : Option (Nat × UInt8 × UInt8) :=
  match expected, got with
  | e :: expected, g :: got =>
    if e = g then firstDifference (offset + 1) expected got else some (offset, e, g)
  | _, _ => none

/-- Compares the array with what was programmed. -/
def verifyRange (config : ControllerConfig) (addr : Nat) (data : List UInt8)
    (cipher : CipherMode) : Command (Rig σ) Unit := do
  let image ← flash (readRange config addr (Cipher.paddedLength data.length cipher))
  match firstDifference addr data (Cipher.decipher image cipher) with
  | some (place, expected, got) => throw (.mismatch place expected got)
  | none => print "Verification passed!"

/-- Tells what a program operation has done. -/
def reportProgrammed (addr : Nat) (stats : ProgramStats) : Command (Rig σ) Unit :=
  print ("Programmed " ++ toString stats.bytesProgrammed ++ " bytes at 0x" ++ Hex.padded 6 addr ++
    ": " ++ toString stats.windows ++ " windows, " ++ toString stats.transfers ++ " transfers" ++
    (if 0 < stats.tailTransfers then " + padded tail block" else ""))

/-- Accepts data that can be programmed at an address. -/
def checkWrite (addr : Nat) (data : List UInt8) (cipher : CipherMode) :
    Except CommandFault Unit := do
  if data.isEmpty then throw .emptyInput
  (checkRange addr (Cipher.paddedLength data.length cipher)).mapError .flash
  if cipher ≠ .none ∧ addr % Cipher.blockSize ≠ 0 then throw (.unalignedBlock Cipher.blockSize)

/-- Programs a file at an address. -/
def write (config : ControllerConfig) (addr : Nat) (input : String) (options : WriteOptions) :
    Command (Rig σ) Unit := do
  let data := (← readFile input).data.toList
  print ("Read " ++ toString data.length ++ " bytes from " ++ Quoted.quote input)
  check (checkWrite addr data options.cipher)
  if options.erase then
    flash (eraseRange config addr (Cipher.paddedLength data.length options.cipher))
  let stats ← flash (Controller.program config addr data options.useDma options.cipher)
  reportProgrammed addr stats
  if options.verify then verifyRange config addr data options.cipher

end CardReader.Command
