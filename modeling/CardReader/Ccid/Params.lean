import CardReader.Ccid.Code

/-!
# Protocol parameters

The block of parameters of each transmission protocol, and the rules that a block from the host
has to obey.
-/

namespace CardReader.Ccid

/-- The protocol in use and its parameters. -/
inductive ProtocolParams where
  /-- The character protocol: transmission factors, checksum and convention, guard time, waiting
  time and clock stop. -/
  | t0 (factors checksum guard waiting clockStop : UInt8)
  /-- The block protocol: besides these the size of the information field and the node address. -/
  | t1 (factors checksum guard waiting clockStop ifsc nad : UInt8)
  deriving DecidableEq

namespace ProtocolParams

/-- The parameters of the character protocol that a slot starts with. -/
def default : ProtocolParams := .t0 0x11 0x00 0x00 0x0A 0x00

/-- The default parameters of the block protocol. -/
def defaultT1 : ProtocolParams := .t1 0x11 0x10 0x00 0x4D 0x00 0x20 0x00

/-- The number of the protocol. -/
def protocol : ProtocolParams → UInt8
  | t0 .. => 0
  | t1 .. => 1

/-- The parameter block. -/
def bytes : ProtocolParams → List UInt8
  | t0 factors checksum guard waiting clockStop => [factors, checksum, guard, waiting, clockStop]
  | t1 factors checksum guard waiting clockStop ifsc nad =>
    [factors, checksum, guard, waiting, clockStop, ifsc, nad]

/-- Refuses transmission factors with the reserved index zero in either half. -/
def checkFactors (factors : UInt8) : Except SlotError Unit :=
  if factors >>> 4 = 0 ∨ factors &&& 0x0F = 0 then .error .badFiDi else .ok ()

/-- Refuses a clock stop support beyond its two bits. -/
def checkClockStop (clockStop : UInt8) : Except SlotError Unit :=
  if 0x03 < clockStop then .error .badClockStop else .ok ()

/-- Reads a parameter block from the host.  The character protocol leaves only the convention bit
of the checksum byte free; the block protocol fixes its upper bits, knows two sizes that no
information field can have, and has no node addresses. -/
def parse (protocol : UInt8) (data : List UInt8) : Except SlotError ProtocolParams := do
  if protocol = 0 then
    match data with
    | [factors, checksum, guard, waiting, clockStop] =>
      checkFactors factors
      if checksum &&& ~~~0x02 ≠ 0 then throw .badChecksum
      checkClockStop clockStop
      return .t0 factors checksum guard waiting clockStop
    | _ => throw .badDataLength
  else if protocol = 1 then
    match data with
    | [factors, checksum, guard, waiting, clockStop, ifsc, nad] =>
      checkFactors factors
      if checksum &&& ~~~0x03 ≠ 0x10 then throw .badChecksum
      checkClockStop clockStop
      if ifsc = 0x00 ∨ ifsc = 0xFF then throw .badIfsc
      if nad ≠ 0x00 then throw .badNad
      return .t1 factors checksum guard waiting clockStop ifsc nad
    | _ => throw .badDataLength
  else throw .badProtocol

end ProtocolParams

end CardReader.Ccid
