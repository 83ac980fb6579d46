import CardReader.Text.Hex

/-!
# Failures of flash operations

Every way in which an operation on the flash can end short of its aim, the wording of each, and
which of them mean that a wait ran past its deadline.
-/

namespace CardReader.Flash

/-- The cause of a failed flash operation. -/
inductive Failure where
  /-- The controller never reported the command as complete. -/
  | commandTimeout (opcode : UInt8)
  /-- The part stayed busy past the deadline. -/
  | busyTimeout
  /-- More data was staged than the FIFO can hold. -/
  | fifoOverflow
  /-- The controller cannot drive the requested bus mode. -/
  | busModeNotSupported
  /-- The controller has no DMA path for the write FIFO. -/
  | dmaNotSupported
  /-- The DMA channel is already claimed. -/
  | dmaChannelBusy
  /-- A DMA transfer did not drain before the deadline. -/
  | dmaTimeout
  /-- The controller did not accept the erase at this address. -/
  | eraseRefused (addr : Nat)
  /-- The part stayed busy past the deadline after the erase at this address. -/
  | eraseTimeout (addr : Nat)
  /-- The window starting here did not complete before the deadline; everything before it is
  programmed. -/
  | programTimeout (window : Nat)
  /-- The controller rejected a transfer inside the window starting here. -/
  | programRefused (window : Nat)
  /-- Data could not be fetched from the read FIFO. -/
  | readFailed
  /-- The range leaves the 24-bit address space. -/
  | addressOutOfBounds
  /-- The operation needs an aligned address or size. -/
  | invalidAlignment
  /-- The buffer is too small for the operation. -/
  | bufferTooSmall
  deriving DecidableEq

namespace Failure

/-- An address as messages show it, with at least six digits. -/
def address (addr : Nat) : String := "0x" ++ Hex.padded 6 addr

/-- The wording of a failure. -/
def message : Failure → String
  | commandTimeout opcode => "command 0x" ++ Hex.padded 2 opcode.toNat ++ " did not complete"
  | busyTimeout => "flash stayed busy past the deadline"
  | fifoOverflow => "write FIFO overflow"
  | busModeNotSupported => "bus mode not supported by controller"
  | dmaNotSupported => "DMA not supported by controller"
  | dmaChannelBusy => "DMA channel already in use"
  | dmaTimeout => "DMA transfer timed out"
  | eraseRefused addr => "erase command failed at address " ++ address addr
  | eraseTimeout addr => "erase timed out at address " ++ address addr
  | programTimeout window => "program timed out in window at " ++ address window
  | programRefused window => "program transfer failed in window at " ++ address window
  | readFailed => "read operation failed"
  | addressOutOfBounds => "address out of bounds"
  | invalidAlignment => "invalid alignment"
  | bufferTooSmall => "buffer too small"

/-- Whether a wait ran past its deadline. -/
def isTimeout : Failure → Bool
  | commandTimeout _ | busyTimeout | dmaTimeout | eraseTimeout _ | programTimeout _ => true
  | _ => false

end Failure

end CardReader.Flash
