import CardReader.Ccid.Code

/-!
# Message headers

Every bulk message starts with ten bytes: the message type, the number of bytes that follow the
header, the slot and a sequence number, and three more bytes whose meaning depends on the message.
Numbers are sent with the least significant byte first.
-/

namespace CardReader.Ccid

/-- The four bytes of a number, least significant first. -/
def bytes32 (value : Nat) : List UInt8 :=
  [UInt8.ofNat value, UInt8.ofNat (value / 0x100), UInt8.ofNat (value / 0x10000),
    UInt8.ofNat (value / 0x1000000)]

/-- The number with given bytes, least significant first. -/
def number32 (b0 b1 b2 b3 : UInt8) : Nat :=
  b0.toNat + b1.toNat * 0x100 + b2.toNat * 0x10000 + b3.toNat * 0x1000000

/-- The three message-specific bytes of a command header. -/
structure CommandParams where
  /-- The first byte. -/
  first : UInt8 := 0
  /-- The second byte. -/
  second : UInt8 := 0
  /-- The third byte. -/
  third : UInt8 := 0
  deriving DecidableEq

/-- The bytes themselves. -/
def CommandParams.bytes (params : CommandParams) : List UInt8 :=
  [params.first, params.second, params.third]

/-- The header of a command. -/
structure CommandHeader where
  /-- The message type. -/
  type : UInt8
  /-- Bytes after the header. -/
  length : Nat
  /-- The slot addressed. -/
  slot : UInt8
  /-- The number of the command. -/
  seq : UInt8
  /-- The message-specific bytes. -/
  params : CommandParams
  deriving DecidableEq

namespace CommandHeader

/-- Reads the header at the start of a packet that holds at least as much. -/
def parse? : List UInt8 → Option CommandHeader
  | t :: l0 :: l1 :: l2 :: l3 :: slot :: seq :: p0 :: p1 :: p2 :: _ =>
    some { type := t, length := number32 l0 l1 l2 l3, slot, seq, params := ⟨p0, p1, p2⟩ }
  | _ => none

/-- The ten bytes of a header. -/
def bytes (header : CommandHeader) : List UInt8 :=
  header.type :: bytes32 header.length ++ [header.slot, header.seq] ++ header.params.bytes

end CommandHeader

/-- The header of a response. -/
structure ResponseHeader where
  /-- The message type. -/
  type : UInt8
  /-- Bytes after the header. -/
  length : Nat
  /-- The slot of the command. -/
  slot : UInt8
  /-- The number of the command. -/
  seq : UInt8
  /-- The state of the card and of the command. -/
  status : UInt8
  /-- The reason of a failure. -/
  error : UInt8
  /-- The message-specific byte. -/
  specific : UInt8
  deriving DecidableEq

namespace ResponseHeader

/-- Reads the header at the start of a response that holds at least as much. -/
def parse? : List UInt8 → Option ResponseHeader
  | t :: l0 :: l1 :: l2 :: l3 :: slot :: seq :: status :: error :: specific :: _ =>
    some { type := t, length := number32 l0 l1 l2 l3, slot, seq, status, error, specific }
  | _ => none

/-- The ten bytes of a header. -/
def bytes (header : ResponseHeader) : List UInt8 :=
  header.type :: bytes32 header.length ++
    [header.slot, header.seq, header.status, header.error, header.specific]

end ResponseHeader

end CardReader.Ccid
