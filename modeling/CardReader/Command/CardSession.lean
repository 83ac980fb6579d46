import CardReader.Ccid.Notifier
import CardReader.Ccid.Reassembler
import CardReader.Ccid.VirtualCard
import CardReader.Command.Basic

/-!
# A session with a card

The command that plays the host of the card reader: it activates a virtual card, sends it APDUs and
deactivates it, one message after the other over the bulk endpoints.
-/

namespace CardReader.Command

open Ccid

variable {κ : Type} [SmartCard κ]

/-- Hands packets to the reader until a message is complete. -/
def deliver (r : Reassembler κ) : List (List UInt8) → Reassembler κ
  | [] => r
  | packet :: rest =>
    match r.bulkOut packet with
    | (.dispatched _, r) => r
    | (.rejected, r) => r
    | (_, r) => deliver r rest

/-- Sends a message and takes the response. -/
def exchange (type : CommandType) (seq : UInt8) (params : CommandParams) (payload : List UInt8) :
    Command (Reassembler κ) Response := do
  if maxPayload < payload.length then throw (.payloadTooLong payload.length maxPayload)
  let r ← get
  let (response, r) :=
    (deliver r (packets (commandBytes type.code 0 seq params payload))).bulkInComplete
  set r
  match response with
  | none => throw .noResponse
  | some response => return response

/-- Sends APDUs, numbering them on from `seq`; answers with the last number. -/
def sendApdus (seq : UInt8) : List (List UInt8) → Command (Reassembler κ) UInt8
  | [] => return seq
  | apdu :: rest => do
    let response ← exchange .xfrBlock (seq + 1) {} apdu
    print ("APDU " ++ Hex.ofBytes apdu ++ " -> " ++ Hex.ofBytes response.data)
    sendApdus (seq + 1) rest

/-- Activates the card, sends APDUs and deactivates the card. -/
def converse (voltage : UInt8) (apdus : List (List UInt8)) :
    Command (Reassembler κ) Unit := do
  let activated ← exchange .powerOn 0 { first := voltage } []
  print ("PowerOn  -> " ++ Hex.ofBytes activated.bytes)
  if activated.failed then throw (.notActivated activated.error)
  let seq ← sendApdus 0 apdus
  let deactivated ← exchange .powerOff (seq + 1) {} []
  print ("PowerOff -> " ++ Hex.ofBytes deactivated.bytes)

/-- Reports that the card is there. -/
def reportPresence : Command (Reassembler κ) Unit :=
  match ((Notifier.start true).poll).1 with
  | some notification => print ("Interrupt: " ++ Hex.ofBytes notification)
  | none => pure ()

/-- The answer to reset and the APDUs of a session. -/
structure SessionBytes where
  /-- The answer to reset. -/
  atr : List UInt8
  /-- The APDUs. -/
  apdus : List (List UInt8)
  deriving DecidableEq

/-- Reads the bytes of a session from hexadecimal text. -/
def SessionBytes.parse (atr : String) (apdus : List String) : Except Hex.Refusal SessionBytes := do
  return { atr := ← Hex.parse atr, apdus := ← apdus.mapM Hex.parse }

/-- A session with a virtual card with a given answer to reset. -/
def cardSession {σ : Type} (atr : String) (voltage : UInt8) (apdus : List String) :
    Command σ Unit := fun state =>
  match SessionBytes.parse atr apdus with
  | .error refusal => .done (.error (.hex refusal), state)
  | .ok bytes =>
    let session : Command (Reassembler VirtualCard) Unit := do
      reportPresence
      converse voltage bytes.apdus
    (fun (outcome, _) => (outcome, state)) <$>
      session (Reassembler.new { atr := bytes.atr })

end CardReader.Command
