import CardReader.Flash.Error
import CardReader.Flash.Opcode

/-!
# Bus modes

How many lines the phases of a transaction use.  The opcode always goes out on one line; the
address and the data can be wider.  A controller drives the wider modes only if it has the
matching feature.
-/

namespace CardReader.Flash

/-! ## Controller features -/

/-- What a controller can do beyond single-line transactions. -/
structure BusFeatures where
  /-- A DMA channel can feed the write FIFO. -/
  dma : Bool := false
  /-- Two lines can be driven. -/
  dual : Bool := false
  /-- Four lines can be driven. -/
  quad : Bool := false
  deriving DecidableEq

namespace BusFeatures

/-- The features as a bit set: DMA, dual and quad from the lowest bit up. -/
def bits (features : BusFeatures) : Nat :=
  (if features.dma then 1 else 0) + (if features.dual then 2 else 0) +
    (if features.quad then 4 else 0)

/-- The features whose bits are set; other bits mean nothing. -/
def ofBits (bits : Nat) : BusFeatures :=
  { dma := bits.testBit 0, dual := bits.testBit 1, quad := bits.testBit 2 }

end BusFeatures

/-! ## Modes -/

/-- The lines used by the address and data phases. -/
inductive BusMode where
  /-- One line throughout. -/
  | single
  /-- Data on two lines. -/
  | dualOut
  /-- Address and data on two lines. -/
  | dualIo
  /-- Data on four lines. -/
  | quadOut
  /-- Address and data on four lines. -/
  | quadIo
  deriving DecidableEq

namespace BusMode

/-- Every mode, from the narrowest to the widest. -/
def all : List BusMode := [single, dualOut, dualIo, quadOut, quadIo]

/-- The name of a mode in configurations. -/
def name : BusMode → String
  | single => "single"
  | dualOut => "dual-out"
  | dualIo => "dual-io"
  | quadOut => "quad-out"
  | quadIo => "quad-io"

/-- The mode of a given name. -/
def ofName? (name : String) : Option BusMode := all.find? fun mode => mode.name == name

/-- Lines used by the address phase. -/
def addressLines : BusMode → Nat
  | single | dualOut | quadOut => 1
  | dualIo => 2
  | quadIo => 4

/-- Lines used by the data phase. -/
def dataLines : BusMode → Nat
  | single => 1
  | dualOut | dualIo => 2
  | quadOut | quadIo => 4

/-- The fast read of the mode. -/
def readOpcode : BusMode → UInt8
  | single => Opcode.fastRead
  | dualOut => Opcode.dualOutRead
  | dualIo => Opcode.dualIoRead
  | quadOut => Opcode.quadOutRead
  | quadIo => Opcode.quadIoRead

/-- The page program of the mode.  Parts offer a four-line program but no two-line one, so the
two-line modes program on a single line. -/
def programOpcode : BusMode → UInt8
  | single | dualOut | dualIo => Opcode.pageProgram
  | quadOut | quadIo => Opcode.quadPageProgram

/-- Dummy cycles between the address and the data of the mode's read. -/
def readDummyCycles : BusMode → Nat
  | single | dualOut | quadOut => 8
  | dualIo => 4
  | quadIo => 6

/-- Whether the mode drives two lines. -/
def needsDual : BusMode → Bool
  | dualOut | dualIo => true
  | _ => false

/-- Whether the mode drives four lines. -/
def needsQuad : BusMode → Bool
  | quadOut | quadIo => true
  | _ => false

/-- Whether a controller with these features can drive the mode. -/
def supportedBy (mode : BusMode) (features : BusFeatures) : Bool :=
  (!mode.needsDual || features.dual) && (!mode.needsQuad || features.quad)

/-- Accepts a mode that a controller with these features can drive. -/
def check (mode : BusMode) (features : BusFeatures) : Except Failure Unit :=
  if mode.supportedBy features then .ok () else .error .busModeNotSupported

end BusMode

end CardReader.Flash
