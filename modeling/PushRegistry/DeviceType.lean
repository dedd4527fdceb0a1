import PushRegistry.Json.Reader

/-!
# `PushRegistry.DeviceType`: push platforms

The platforms a device token can belong to, their tags in documents and the names by which
users choose them.
-/

set_option autoImplicit false

namespace PushRegistry

open PushRegistry.Json (Reader)

/-- The push platform that issued a device token. -/
inductive DeviceType where
  /-- Apple push service. -/
  | ios
  /-- Android cloud to device messaging. -/
  | c2dm
  /-- Google cloud messaging. -/
  | gcm
  deriving DecidableEq, Repr

/-- A name that is no device type. -/
structure UnknownDeviceType where
  name : String
  deriving DecidableEq, Repr

/-- The account of an unknown name that users see. -/
def UnknownDeviceType.message (e : UnknownDeviceType) : String :=
  "Unknown device type: " ++ e.name ++ " (expected aps, c2dm or gcm)"

namespace DeviceType

/-- The tag in documents. -/
def tag : DeviceType → String
  | .ios => "IOS"
  | .c2dm => "C2DM"
  | .gcm => "GCM"

/-- The device type that a user names, in upper or lower case. -/
def parse (name : String) : Except UnknownDeviceType DeviceType :=
  match String.ofList (name.toList.map Char.toLower) with
  | "aps" => .ok .ios
  | "ios" => .ok .ios
  | "c2dm" => .ok .c2dm
  | "gcm" => .ok .gcm
  | _ => .error ⟨name⟩

/-- The tags and their variants that documents may hold. -/
def tags : List (String × DeviceType) :=
  [("APS", .ios), ("IOS", .ios), ("aps", .ios), ("ios", .ios),
    ("C2DM", .c2dm), ("c2dm", .c2dm), ("GCM", .gcm), ("gcm", .gcm)]

/-- The device type with a tag. -/
def ofTag? (tag : String) : Option DeviceType := tags.lookup tag

/-- The device type as a document. -/
def toValue (t : DeviceType) : Json.Value := .string t.tag

/-- Reads a device type. -/
def reader (allowed : Nat) : Reader DeviceType :=
  Reader.unitVariant ofTag? (tags.map Prod.fst) allowed

/-- The device type that a text holds. -/
def decode (bytes : List UInt8) : Except Json.Fault DeviceType :=
  Reader.run (Reader.whole reader) bytes

theorem ofTag?_tag (t : DeviceType) : ofTag? t.tag = some t := by cases t <;> rfl

end DeviceType

end PushRegistry
