import CardReader.Ccid.BasicCard
import CardReader.Ccid.Card
import CardReader.Ccid.Code
import CardReader.Ccid.Header
import CardReader.Ccid.Log
import CardReader.Ccid.Message
import CardReader.Ccid.Notifier
import CardReader.Ccid.Params
import CardReader.Ccid.Reassembler
import CardReader.Ccid.Response
import CardReader.Ccid.ScriptedCard
import CardReader.Ccid.Slot
import CardReader.Ccid.VirtualCard
import CardReader.Chunks
import CardReader.Clock
import CardReader.Command.Basic
import CardReader.Command.CardSession
import CardReader.Command.Inspection
import CardReader.Command.Transfer
import CardReader.CommandLine.Options
import CardReader.CommandLine.Request
import CardReader.CommandLine.Run
import CardReader.Files
import CardReader.Flash.Bus
import CardReader.Flash.BusMode
import CardReader.Flash.Cipher
import CardReader.Flash.Command
import CardReader.Flash.Controller.Basic
import CardReader.Flash.Controller.Config
import CardReader.Flash.Controller.Erase
import CardReader.Flash.Controller.Program
import CardReader.Flash.Controller.Read
import CardReader.Flash.DeviceParams
import CardReader.Flash.Error
import CardReader.Flash.Geometry
import CardReader.Flash.JedecId
import CardReader.Flash.Op
import CardReader.Flash.Opcode
import CardReader.Flash.PageWindows
import CardReader.Flash.Sequence
import CardReader.Interaction
import CardReader.Main
import CardReader.Part.Bare
import CardReader.Part.Basic
import CardReader.Part.Bus
import CardReader.Part.Cells
import CardReader.Part.Config
import CardReader.Part.ConfigFile
import CardReader.Part.Faulty
import CardReader.Part.Setup
import CardReader.Proofs.Act
import CardReader.Proofs.Ccid.Activation
import CardReader.Proofs.Ccid.Answer
import CardReader.Proofs.Ccid.Conduct
import CardReader.Proofs.Ccid.Exchange
import CardReader.Proofs.Ccid.Framing
import CardReader.Proofs.Ccid.Gathering
import CardReader.Proofs.Ccid.Intent
import CardReader.Proofs.Ccid.Ledger
import CardReader.Proofs.Ccid.Mismatch
import CardReader.Proofs.Ccid.Notifications
import CardReader.Proofs.Ccid.Packets
import CardReader.Proofs.Ccid.Parameters
import CardReader.Proofs.Ccid.Service
import CardReader.Proofs.Ccid.Silence
import CardReader.Proofs.Cipher
import CardReader.Proofs.Cipher.Inverse
import CardReader.Proofs.Command.CardSession
import CardReader.Proofs.Command.EraseRange
import CardReader.Proofs.Command.Runs
import CardReader.Proofs.Command.Standby
import CardReader.Proofs.Command.Write
import CardReader.Proofs.CommandLine.Invocations
import CardReader.Proofs.CommandLine.Sessions
import CardReader.Proofs.Effects
import CardReader.Proofs.Erases
import CardReader.Proofs.Failures
import CardReader.Proofs.Files
import CardReader.Proofs.Grammar
import CardReader.Proofs.Hexadecimal
import CardReader.Proofs.Lasting
import CardReader.Proofs.Outcome
import CardReader.Proofs.Part.Books
import CardReader.Proofs.Part.Carrier
import CardReader.Proofs.Part.Cells
import CardReader.Proofs.Part.Changes
import CardReader.Proofs.Part.Commands
import CardReader.Proofs.Part.Deliveries
import CardReader.Proofs.Part.Fifos
import CardReader.Proofs.Part.Instants
import CardReader.Proofs.Part.Periods
import CardReader.Proofs.Part.Resets
import CardReader.Proofs.Part.Shape
import CardReader.Proofs.PowerDown
import CardReader.Proofs.Program.Agreement
import CardReader.Proofs.Program.Channel
import CardReader.Proofs.Program.Chunk
import CardReader.Proofs.Program.Completion
import CardReader.Proofs.Program.Containment
import CardReader.Proofs.Program.Overrun
import CardReader.Proofs.Program.Page
import CardReader.Proofs.Program.Plan
import CardReader.Proofs.Program.Restart
import CardReader.Proofs.Program.Run
import CardReader.Proofs.Program.Traffic
import CardReader.Proofs.Program.Unclaimed
import CardReader.Proofs.Program.Unheard
import CardReader.Proofs.Program.Windows
import CardReader.Proofs.Quiet.Calls
import CardReader.Proofs.Quiet.History
import CardReader.Proofs.Quiet.Programs
import CardReader.Proofs.Quiet.Steps
import CardReader.Proofs.Reachable
import CardReader.Proofs.Reads
import CardReader.Proofs.Recorded
import CardReader.Proofs.Registers
import CardReader.Proofs.Rejections
import CardReader.Proofs.Rounds
import CardReader.Proofs.Standby.Basic
import CardReader.Proofs.Standby.Calls
import CardReader.Proofs.Standby.Programs
import CardReader.Proofs.Standby.Ranges
import CardReader.Proofs.Timeouts
import CardReader.Proofs.Transactions
import CardReader.Proofs.View
import CardReader.Proofs.Waits
import CardReader.Proofs.Walk.Operations
import CardReader.Proofs.Walk.Rules
import CardReader.Proofs.Watched
import CardReader.Text.Blank
import CardReader.Text.Hex
import CardReader.Text.LogText
import CardReader.Text.Quantity
import CardReader.Text.Quoted
import CardReader.Text.Unshown
import CardReader.Text.Unsigned
import CardReader.Toml.Blank
import CardReader.Toml.Datetime
import CardReader.Toml.Decode
import CardReader.Toml.Document
import CardReader.Toml.Number
import CardReader.Toml.Reader
import CardReader.Toml.Text
import CardReader.Toml.Tree
import CardReader.Toml.Value
