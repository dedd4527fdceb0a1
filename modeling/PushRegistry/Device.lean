import PushRegistry.DeviceType

/-!
# `PushRegistry.Device`: registrations

A registration binds a device token to a user and a platform. Documents name its fields in
camel case; two of them have a second name with an underscore.
-/

set_option autoImplicit false

namespace PushRegistry

open PushRegistry.Json (Reader)

/-- A device registered for a user. -/
structure Device where
  /-- The account that owns the registration. -/
  user : String
  /-- The token that the push platform issued. -/
  token : String
  type : DeviceType
  deriving DecidableEq, Repr

namespace Device

/-- The device as a document. -/
def toValue (d : Device) : Json.Value :=
  .object [("user", .string d.user), ("deviceToken", .string d.token),
    ("deviceType", d.type.toValue)]

/-- The fields of a device that have been read so far. -/
structure Partial where
  user : Option String
  token : Option String
  type : Option DeviceType
  deriving DecidableEq, Repr

namespace Partial

/-- No field has been read. -/
def empty : Partial := ⟨none, none, none⟩

/-- Reads the member of the given name. -/
def member (allowed : Nat) (name : String) (p : Partial) : Reader Partial :=
  match name with
  | "user" => do return { p with user := ← Reader.once "user" p.user Reader.stringValue }
  | "deviceToken" => token
  | "device_token" => token
  | "deviceType" => type
  | "device_type" => type
  | _ => Reader.unknownField p
where
  /-- The token, under either name. -/
  token : Reader Partial := do
    return { p with token := ← Reader.once "deviceToken" p.token Reader.stringValue }
  /-- The platform, under either name. -/
  type : Reader Partial := do
    return { p with type := ← Reader.once "deviceType" p.type (DeviceType.reader allowed) }

/-- The device, if every field has been read. -/
def finish (p : Partial) : Reader Device := do
  let user ← Reader.required "user" p.user
  let token ← Reader.required "deviceToken" p.token
  let type ← Reader.required "deviceType" p.type
  return ⟨user, token, type⟩

end Partial

/-- The list of a device's fields. -/
def listReader (allowed : Nat) : Reader Device := do
  let expected : Json.Expected := .elements "Device" 3
  let user ← Reader.requiredElement expected 0 Reader.stringValue
  let token ← Reader.requiredElement expected 1 Reader.stringValue
  let type ← Reader.requiredElement expected 2 (DeviceType.reader allowed)
  return ⟨user, token, type⟩

/-- The members of a device. -/
def objectReader (allowed : Nat) : Reader Device := do
  (← Reader.fields (Partial.member allowed) Partial.empty).finish

/-- Reads a device. -/
def reader (allowed : Nat) : Reader Device :=
  Reader.record "Device" listReader objectReader allowed

/-- The device that a text holds. -/
def decode (bytes : List UInt8) : Except Json.Fault Device :=
  Reader.run (Reader.whole reader) bytes

/-- The list of devices that a text holds. -/
def decodeList (bytes : List UInt8) : Except Json.Fault (List Device) :=
  Reader.run (Reader.whole (Reader.listOf reader)) bytes

/-- A list of devices as a document. -/
def listToValue (ds : List Device) : Json.Value := .array (ds.map toValue)

end Device

end PushRegistry
