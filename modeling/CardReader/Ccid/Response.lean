import CardReader.Ccid.Header
import CardReader.Text.Hex
import CardReader.Text.LogText

/-!
# Responses

Each command is answered by one response, which is addressed to its slot and number.  A response
is built from the state of the card, the outcome code of the command and, in some families, data;
the data goes out only if the error byte of the response is zero.
-/

namespace CardReader.Ccid

/-- The slot and number of the command that a response answers. -/
structure Echo where
  /-- The slot. -/
  slot : UInt8
  /-- The number. -/
  seq : UInt8
  deriving DecidableEq

/-- A response. -/
structure Response where
  /-- The message type. -/
  type : UInt8
  /-- The slot of the command. -/
  slot : UInt8
  /-- The number of the command. -/
  seq : UInt8
  /-- The state of the card and of the command. -/
  status : UInt8
  /-- The reason of a failure. -/
  error : UInt8
  /-- The message-specific byte. -/
  specific : UInt8
  /-- The bytes after the header. -/
  data : List UInt8
  deriving DecidableEq

namespace Response

/-- A response of a family, with at most the largest payload as its data.  An outcome code other
than that of success marks the command as failed and becomes the error byte. -/
def build (family : ResponseType) (echo : Echo) (icc code specific : UInt8) (data : List UInt8) :
    Response :=
  let (status, error) := if code = noError then (icc, 0) else (icc ||| commandFailed, code)
  { type := family.code
    slot := echo.slot
    seq := echo.seq
    status
    error
    specific
    data := if error = 0 then data.take maxPayload else [] }

/-- Data from the card. -/
def dataBlock (echo : Echo) (icc code : UInt8) (data : List UInt8) : Response :=
  build .dataBlock echo icc code 0 data

/-- The status of the slot and of the card clock. -/
def slotStatus (echo : Echo) (icc code clockStatus : UInt8) : Response :=
  build .slotStatus echo icc code clockStatus []

/-- The protocol parameters. -/
def parameters (echo : Echo) (icc code protocol : UInt8) (data : List UInt8) : Response :=
  build .parameters echo icc code protocol data

/-- The answer to a vendor's command. -/
def escape (echo : Echo) (icc code : UInt8) : Response := build .escape echo icc code 0 []

/-- The clock frequency and the data rate. -/
def dataRate (echo : Echo) (icc code : UInt8) (clock rate : UInt32) : Response :=
  build .dataRate echo icc code 0 (bytes32 clock.toNat ++ bytes32 rate.toNat)

/-- The header. -/
def header (response : Response) : ResponseHeader :=
  { type := response.type
    length := response.data.length
    slot := response.slot
    seq := response.seq
    status := response.status
    error := response.error
    specific := response.specific }

/-- The bytes that go out. -/
def bytes (response : Response) : List UInt8 := response.header.bytes ++ response.data

/-- Whether the command failed. -/
def failed (response : Response) : Bool := response.status &&& commandFailed != 0

/-- The response in a line of a log. -/
def describe (response : Response) : String :=
  let byte (value : UInt8) : String := "0x" ++ Hex.padded 2 value.toNat
  LogText.record "Response"
    [("type", byte response.type), ("slot", toString response.slot.toNat),
      ("seq", toString response.seq.toNat), ("status", byte response.status),
      ("error", byte response.error), ("len", toString response.data.length)]

end Response

end CardReader.Ccid
