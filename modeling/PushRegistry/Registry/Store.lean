import PushRegistry.Notification
import PushRegistry.Registry.Registrations
import PushRegistry.ServerStatus

/-!
# `PushRegistry.Registry.Store`: what a server keeps

A server keeps the registrations, the counters it reports and the notifications it has
accepted. A notification counts every registered device once that it reaches by its user or
by its token.
-/

set_option autoImplicit false

namespace PushRegistry.Registry

/-- The memory of a server. -/
structure Store where
  registrations : Registrations
  status : ServerStatus
  notifications : List Json.Value

namespace Store

/-- The memory of a server that has just started. -/
def empty : Store := ⟨Registrations.empty, ServerStatus.zero, []⟩

/-- Registers a device and counts it as added or as updated. -/
def put (s : Store) (d : Device) : Store :=
  { s with
    registrations := s.registrations.insert d
    status :=
      if s.registrations.contains d.key then
        { s.status with devicesUpdated := s.status.devicesUpdated + 1 }
      else { s.status with devicesAdded := s.status.devicesAdded + 1 } }

/-- Removes a registration that is there, and counts it. -/
def remove (s : Store) (key : String × String) : Store :=
  { s with
    registrations := s.registrations.erase key
    status := { s.status with devicesRemoved := s.status.devicesRemoved + 1 } }

/-- Counts one more notified device. -/
def countNotified (c : NotifiedCounts) (t : DeviceType) : NotifiedCounts :=
  match t with
  | .ios => { c with aps := c.aps + 1 }
  | .c2dm => { c with c2dm := c.c2dm + 1 }
  | .gcm => { c with gcm := c.gcm + 1 }

/-- Whether a member of a payload is a list that holds a string. -/
def lists (payload : Json.Value) (name s : String) : Bool :=
  match payload.member? name with
  | some (.array items) => items.any fun item => item.string? == some s
  | _ => false

/-- Whether a payload addresses a device. -/
def reaches (payload : Json.Value) (d : Device) : Bool :=
  lists payload "users" d.user || lists payload "devices" d.token

/-- The types of the registered devices that a payload addresses. -/
def targets (s : Store) (payload : Json.Value) : List DeviceType :=
  (s.registrations.entries.filter (reaches payload)).map Device.type

/-- Accepts a payload and counts the devices it reaches. -/
def notify (s : Store) (payload : Json.Value) : Store :=
  { s with
    status := { s.status with
      devicesNotified := (s.targets payload).foldl countNotified s.status.devicesNotified }
    notifications := s.notifications ++ [payload] }

end Store

/-- Whether a payload has all the parts that a notification needs. -/
def isPayload (v : Json.Value) : Bool :=
  (["aps", "c2dm", "gcm"].all fun name => ((v.member? name).bind Json.Value.members?).isSome) &&
    ["users", "devices"].all fun name => ((v.member? name).bind Json.Value.items?).isSome

end PushRegistry.Registry
