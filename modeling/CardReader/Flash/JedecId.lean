import CardReader.Text.Hex

/-!
# JEDEC identification

The 24-bit number with which a part names its manufacturer, its type and its capacity.
-/

namespace CardReader.Flash

/-- A manufacturer recognised by its JEDEC byte. -/
inductive Vendor where
  | gigaDevice
  | winbond
  | macronix
  | eon
  | zbit
  | puya
  | micron
  deriving DecidableEq

namespace Vendor

/-- The manufacturer with a given JEDEC byte. -/
def ofByte? (byte : UInt8) : Option Vendor :=
  match byte.toNat with
  | 0xC8 => some gigaDevice
  | 0xEF => some winbond
  | 0xC2 => some macronix
  | 0x1C => some eon
  | 0x5E => some zbit
  | 0x85 => some puya
  | 0x20 => some micron
  | _ => none

/-- Whether the controller's command set works with the manufacturer's parts.  Micron parts lay
out their status registers differently. -/
def isSupported : Vendor → Bool
  | micron => false
  | _ => true

/-- The name shown to the user. -/
def name : Vendor → String
  | gigaDevice => "GigaDevice"
  | winbond => "Winbond"
  | macronix => "Macronix"
  | eon => "EON"
  | zbit => "Zbit"
  | puya => "Puya"
  | micron => "Micron"

end Vendor

/-- What a part answers when asked who it is. -/
structure JedecId where
  /-- The manufacturer byte. -/
  manufacturer : UInt8
  /-- The type byte and the capacity byte. -/
  device : UInt16
  deriving DecidableEq

namespace JedecId

/-- Reads the manufacturer from bits 16 to 23 and the device from the bits below. -/
def ofRaw (raw : UInt32) : JedecId :=
  { manufacturer := (raw >>> 16).toUInt8, device := raw.toUInt16 }

/-- The identification as one number. -/
def raw (id : JedecId) : Nat := id.manufacturer.toNat * 0x10000 + id.device.toNat

/-- The manufacturer, if it is known. -/
def vendor? (id : JedecId) : Option Vendor := Vendor.ofByte? id.manufacturer

/-- The capacity in bytes, a power of two with the capacity byte as its exponent, which makes
sense from a kibibyte up to what 32 bits can hold. -/
def capacity? (id : JedecId) : Option Nat :=
  let exponent := id.device.toNat % 0x100
  if 10 ≤ exponent ∧ exponent < 32 then some (Nat.pow 2 exponent) else none

/-- Whether all lines stayed low or all stayed high, as they do when nothing answers. -/
def isBlank (id : JedecId) : Bool := id.raw == 0 || id.raw == 0xFFFFFF

/-- The identification as it is shown: the manufacturer's name and the number. -/
def display (id : JedecId) : String :=
  (match id.vendor? with
    | some vendor => vendor.name
    | none => "unknown") ++ " 0x" ++ Hex.padded 6 id.raw

end JedecId

end CardReader.Flash
