import CardReader.Command.CardSession
import CardReader.Command.Inspection
import CardReader.Command.Transfer
import CardReader.CommandLine.Request
import CardReader.Part.Bus
import CardReader.Part.Setup

/-!
# Running a command line

A command line is read, the part that it describes is set up, the request is carried out, and a
request that modifies the part saves its array if it has an image file.  Nothing is saved after a
failure.
-/

namespace CardReader.CommandLine

open Flash

/-- How a command line ends. -/
inductive Exit where
  /-- All went well. -/
  | success
  /-- The part could not be set up or saved, or the request failed. -/
  | failure (report : String)
  /-- The command line makes no sense. -/
  | misuse (reason : Misuse)
  deriving DecidableEq

namespace Exit

/-- The code with which the program ends. -/
def code : Exit → Nat
  | success => 0
  | failure _ => 1
  | misuse _ => 2

/-- The line that goes to standard error. -/
def complaint? : Exit → Option String
  | success => none
  | failure report => some ("Error: " ++ report)
  | misuse reason => some ("error: " ++ reason.message)

end Exit

/-- The line that shows the version. -/
def versionLine : String := "mhscpu 0.1.0"

/-- The lines that help. -/
def helpLines : List String :=
  "Drives the serial flash and the card slot of a reader." :: "" :: "Commands:" ::
    commands.map fun (name, level) =>
      "  " ++ name ++ String.join (level.options.map fun spec => " [--" ++ spec.name ++ "]")

/-! ## Setting up -/

/-- The configuration of an invocation. -/
def configOf (invocation : Invocation) :
    Interaction (Except Part.SetupFault Part.Config) := do
  let config ← match invocation.config with
    | some path => Part.Config.load path
    | none => pure (.ok {})
  return config.map fun config => { config with image := invocation.image.or config.image }

/-- The rig that a part is used with, and the settings of its controller. -/
def rigOf (part : Part) : Rig Part := { bus := part, clock := .start }

/-- The command that a request stands for. -/
def commandOf (config : ControllerConfig) : Request → Command (Rig Part) Unit
  | .identify => Command.identify config
  | .read addr len output => Command.read config addr len output
  | .write addr input options => Command.write config addr input options
  | .erase target => Command.erase config target
  | .status register write => Command.status config register write
  | .reset => Command.reset config
  | .powerDown => Command.powerDown config
  | .wake => Command.wake config
  | .card atr voltage apdus => Command.cardSession atr voltage apdus

/-- Carries out a request on a part, whose controller is configured first. -/
def carryOut (config : ControllerConfig) (request : Request) : Command (Rig Part) Unit := do
  let config ← Command.flash (Controller.configure config none)
  commandOf config request

/-- Saves a part after a request that modified it. -/
def saveAfter (request : Request) (image : Option String) (part : Part) : Interaction Exit :=
  match request.modifies, image with
  | true, some path => do
    match ← part.save path with
    | .ok () => return .success
    | .error fault => return .failure fault.describe
  | _, _ => return .success

/-- Carries out an invocation. -/
def invoke (invocation : Invocation) : Interaction Exit := do
  match ← configOf invocation with
  | .error fault => return .failure fault.describe
  | .ok config =>
    match ← Part.setUp config with
    | .error fault => return .failure fault.describe
    | .ok part =>
      match ← carryOut config.controller invocation.request (rigOf part) with
      | (.error fault, _) => return .failure fault.message
      | (.ok (), rig) => saveAfter invocation.request config.image rig.bus

/-- Prints lines one by one. -/
def printLines (lines : List String) : Interaction Unit :=
  lines.forM fun line => .print line .done

/-- Runs a command line. -/
def run (words : List String) : Interaction Exit := do
  match parse words with
  | .ok invocation => invoke invocation
  | .error .version => do
    printLines [versionLine]
    return .success
  | .error .help => do
    printLines helpLines
    return .success
  | .error (.misuse reason) => return .misuse reason

end CardReader.CommandLine
