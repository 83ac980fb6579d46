import CardReader.Command.Transfer
import CardReader.CommandLine.Options
import CardReader.Text.Quantity

/-!
# Requests

The commands that can be given on the command line, their options, and the request that a command
line makes.
-/

namespace CardReader.CommandLine

open Flash Command

/-- What a command line asks for. -/
inductive Request where
  /-- Show the identification of the part. -/
  | identify
  /-- Read a range into a file. -/
  | read (addr len : Nat) (output : String)
  /-- Program a file. -/
  | write (addr : Nat) (input : String) (options : WriteOptions)
  /-- Erase a unit of the array. -/
  | erase (target : EraseTarget)
  /-- Show a status register, after writing a value to it if one is given. -/
  | status (register : StatusRegister) (write : Option Nat)
  /-- Reset the part. -/
  | reset
  /-- Put the part into deep power down. -/
  | powerDown
  /-- Wake the part. -/
  | wake
  /-- Send APDUs to a virtual card. -/
  | card (atr : String) (voltage : UInt8) (apdus : List String)
  deriving DecidableEq

/-- Whether a request changes the part for good. -/
def Request.modifies : Request → Bool
  | .write .. | .erase .. | .status _ (some _) => true
  | _ => false

/-- A request and the files that describe the part. -/
structure Invocation where
  /-- The configuration file. -/
  config : Option String
  /-- The image file, which goes before the one that the configuration names. -/
  image : Option String
  /-- The request. -/
  request : Request
  deriving DecidableEq

/-! ## Values -/

/-- A number of 32 bits, decimal or hexadecimal after `0x`. -/
def number? (text : String) : Option Nat := (Quantity.bareNumber text.toList).toOption

/-- A number of 8 bits, decimal or hexadecimal after `0x`. -/
def byte? (text : String) : Option UInt8 :=
  ((number? text).filter (· ≤ Unsigned.greatest 8)).map UInt8.ofNat

/-- A status register by its decimal number. -/
def register? (text : String) : Option StatusRegister :=
  match (Unsigned.parse 10 (Unsigned.greatest 63) text.toList).toOption with
  | some 1 => some .one
  | some 2 => some .two
  | some 3 => some .three
  | _ => none

/-! ## Options -/

/-- An option with a path. -/
def pathOption (name : String) (letter : Option Char) : OptionSpec :=
  { name, letter, kind := .value fun text => !text.isEmpty }

/-- An option with a number. -/
def numberOption (name : String) (letter : Option Char) : OptionSpec :=
  { name, letter, kind := .value fun text => (number? text).isSome }

/-- An option without a value. -/
def flagOption (name : String) : OptionSpec := { name, kind := .flag }

/-- The options that may stand before a command as well as after it. -/
def globalOptions : List OptionSpec :=
  [{ name := "verbose", letter := some 'v', kind := .counted }, pathOption "config" (some 'c'),
    pathOption "image" none, { name := "help", letter := some 'h', kind := .halting .help }]

/-- The commands with their own options. -/
def commands : List (String × Level) :=
  [("id", { options := [] }),
    ("read", { options :=
      [numberOption "address" (some 'a'), numberOption "length" (some 'l'),
        pathOption "output" (some 'o')] }),
    ("write", { options :=
      [numberOption "address" (some 'a'), pathOption "input" (some 'i'), flagOption "dma",
        { name := "cipher", kind := .value fun text => (CipherMode.ofName? text).isSome },
        flagOption "erase", flagOption "verify"] }),
    ("erase", { options :=
      [numberOption "sector" none, numberOption "block32" none, numberOption "block64" none,
        flagOption "chip"] }),
    ("status", { options :=
      [{ name := "register", letter := some 'r',
         kind := .value fun text => (register? text).isSome },
        numberOption "write" none] }),
    ("reset", { options := [] }),
    ("power-down", { options := [] }),
    ("wake", { options := [] }),
    ("ccid", { operands := true, options :=
      [{ name := "atr", kind := .value fun _ => true },
        { name := "voltage", kind := .value fun text => (byte? text).isSome }] })]

/-- The level before the command. -/
def topLevel : Level :=
  { options := { name := "version", letter := some 'V', kind := .halting .version } :: globalOptions
    commands := "help" :: commands.map Prod.fst }

/-! ## Requests from what is given -/

/-- The value of a required option. -/
def required (given : Given) (name : String) : Except Halt String :=
  match given.value? name with
  | some text => .ok text
  | none => .error (.misuse (.missing name))

/-- The number that an option gives, whose value has been accepted before. -/
def numberOf (given : Given) (name : String) : Option Nat := (given.value? name).bind number?

/-- The request to erase, which names exactly one target. -/
def eraseRequest (given : Given) : Except Halt Request :=
  let targets :=
    ((numberOf given "sector").map fun addr => ("sector", EraseTarget.sector addr)).toList ++
      ((numberOf given "block32").map fun addr => ("block32", EraseTarget.block32 addr)).toList ++
      ((numberOf given "block64").map fun addr => ("block64", EraseTarget.block64 addr)).toList ++
      (if given.has "chip" then [("chip", EraseTarget.chip)] else [])
  match targets with
  | [] => .error (.misuse (.missing "chip"))
  | [(_, target)] => .ok (.erase target)
  | _ => .error (.misuse (.conflict (targets.map Prod.fst)))

/-- The request to program a file. -/
def writeRequest (given : Given) : Except Halt Request := do
  let input ← required given "input"
  return .write ((numberOf given "address").getD 0) input
    { useDma := given.has "dma"
      cipher := ((given.value? "cipher").bind CipherMode.ofName?).getD .none
      erase := given.has "erase"
      verify := given.has "verify" }

/-- The request to read a range into a file. -/
def readRequest (given : Given) : Except Halt Request := do
  let len ← required given "length"
  let output ← required given "output"
  return .read ((numberOf given "address").getD 0) ((number? len).getD 0) output

/-- The answer to reset of a session that names none. -/
def defaultAtr : String := "3B021450"

/-- The request that a command makes with what it has been given. -/
def requestOf (command : String) (given : Given) : Except Halt Request :=
  match command with
  | "id" => .ok .identify
  | "read" => readRequest given
  | "write" => writeRequest given
  | "erase" => eraseRequest given
  | "status" => .ok <| .status (((given.value? "register").bind register?).getD .one)
      (numberOf given "write")
  | "reset" => .ok .reset
  | "power-down" => .ok .powerDown
  | "wake" => .ok .wake
  | "ccid" => .ok <| .card ((given.value? "atr").getD defaultAtr)
      (((given.value? "voltage").bind byte?).getD 0) given.operands
  | _ => .error (.misuse (.unknownCommand command))

/-- The outcome of a request for help on a list of topics, of which one command may be one. -/
def helpOn (topics : List String) : Halt :=
  match topics.find? fun topic => !topLevel.commands.contains topic with
  | some topic => .misuse (.unknownCommand topic)
  | none =>
    match topics with
    | _ :: second :: _ => .misuse (.unknownCommand second)
    | _ => .help

/-- The invocation that the words of a command line make. -/
def parse (words : List String) : Except Halt Invocation := do
  let (before, rest) ← topLevel.read {} none words
  match rest with
  | [] => throw (.misuse .noCommand)
  | "help" :: topics => throw (helpOn topics)
  | command :: words =>
    match commands.lookup command with
    | none => throw (.misuse (.unknownCommand command))
    | some level =>
      let level := { level with options := globalOptions ++ level.options }
      let (after, _) ← level.read {} none words
      let request ← requestOf command after
      let path (name : String) : Option String := (after.value? name).or (before.value? name)
      return { config := path "config", image := path "image", request }

end CardReader.CommandLine
