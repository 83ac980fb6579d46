import CardReader.Interaction
import CardReader.Part.Basic
import CardReader.Part.ConfigFile

/-!
# Setting up a part from files

Reading the configuration of a part, filling its array from an image file, and saving the array
again.
-/

namespace CardReader.Part

/-- Why a part could not be set up or saved. -/
inductive SetupFault where
  /-- A file could not be read or written. -/
  | file (path : String) (fault : FileFault)
  /-- The configuration file gives no configuration. -/
  | config (fault : Config.TextFault)
  /-- The image does not fit the array. -/
  | image (fault : ImageTooLarge)
  deriving DecidableEq

namespace SetupFault

/-- The wording of a fault. -/
def message : SetupFault → String
  | file path fault => path ++ ": " ++ fault.message
  | config .malformed => "config parse error"
  | config (.unusable defect) => "invalid config: " ++ defect.message
  | image fault =>
    "image is " ++ toString fault.imageSize ++ " bytes but the flash holds " ++ toString fault.size

/-- The fault in a line of a log. -/
def describe : SetupFault → String
  | file path fault =>
    LogText.record "Io" [("path", Quoted.quote path), ("source", fault.describe)]
  | config .malformed => "Parse"
  | config (.unusable defect) => LogText.tagged "InvalidConfig" (Quoted.quote defect.message)
  | image fault =>
    LogText.record "ImageTooLarge"
      [("len", toString fault.imageSize), ("size", toString fault.size)]

end SetupFault

/-- Reads the configuration in a file. -/
def Config.load (path : String) : Interaction (Except SetupFault Config) :=
  .read path fun contents => .done do
    let bytes ← contents.mapError (.file path)
    match String.fromUTF8? bytes with
    | none => throw (.file path .notText)
    | some text => (Config.parse text).mapError .config

/-- Fills the array of a part from an image file. -/
def restore (path : String) (part : Part) : Interaction (Except SetupFault Part) :=
  .read path fun contents => .done do
    let image ← contents.mapError (.file path)
    (part.loadImage image).mapError .image

/-- Saves the array of a part to an image file. -/
def save (path : String) (part : Part) : Interaction (Except SetupFault Unit) :=
  .write path part.cells.bytes fun outcome => .done (outcome.mapError (.file path))

/-- A part with the image of its configuration, if that names one. -/
def setUp (config : Config) : Interaction (Except SetupFault Part) :=
  match config.image with
  | some path => restore path (new config)
  | none => .done (.ok (new config))

end CardReader.Part
