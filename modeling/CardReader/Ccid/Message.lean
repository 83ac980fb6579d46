import CardReader.Ccid.Header

/-!
# Commands on their way in

A command comes in packets of the bulk endpoint.  The first holds the header, and the payload is
gathered from the rest of it and from the packets after it; what exceeds the largest payload is
counted but not kept.
-/

namespace CardReader.Ccid

/-- A command as far as it has come in. -/
structure Message where
  /-- The slot addressed. -/
  slot : UInt8 := 0
  /-- The number of the command. -/
  seq : UInt8 := 0
  /-- The message type. -/
  type : UInt8 := 0
  /-- Bytes after the header as the header has it. -/
  declared : Nat := 0
  /-- The message-specific bytes of the header. -/
  params : CommandParams := {}
  /-- Whether the header has come in. -/
  headerReceived : Bool := false
  /-- Bytes that have come in, header included. -/
  received : Nat := 0
  /-- The payload that has come in. -/
  payload : List UInt8 := []
  deriving DecidableEq

namespace Message

/-- Adds bytes to the payload as far as they fit. -/
def store (message : Message) (data : List UInt8) : Message :=
  { message with payload := message.payload ++ data.take (maxPayload - message.payload.length) }

/-- The command that starts with a packet, whose header has been read. -/
def start (header : CommandHeader) (packet : List UInt8) : Message :=
  let message : Message :=
    { slot := header.slot
      seq := header.seq
      type := header.type
      declared := header.length
      params := header.params
      headerReceived := true
      received := packet.length }
  message.store (packet.drop headerSize)

/-- Adds the packet that comes next. -/
def append (message : Message) (packet : List UInt8) : Message :=
  { message with received := message.received + packet.length }.store packet

/-- Bytes of the whole message, as its header has it. -/
def expected (message : Message) : Nat := message.declared + headerSize

/-- The command, if its message type is known. -/
def command? (message : Message) : Option CommandType :=
  CommandType.ofCode? message.type

/-- Whether as much has come in as the header says, and all of it has been kept. -/
def lengthConsistent (message : Message) : Bool :=
  message.declared == message.payload.length && message.received == message.expected

end Message

end CardReader.Ccid
