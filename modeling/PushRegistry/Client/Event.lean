import PushRegistry.Client.Failure
import PushRegistry.Device

/-!
# `PushRegistry.Client.Event`: the log of an operation

Every operation announces itself, and later says what came of it. An event has a level, a
message and named fields.
-/

set_option autoImplicit false

namespace PushRegistry.Client

open PushRegistry.Http (Status TransportFault)

/-- How important an event is. -/
inductive Level where
  | debug
  | info
  | warn
  deriving DecidableEq, Repr

/-- The name of a level. -/
def Level.name : Level → String
  | .debug => "debug"
  | .info => "info"
  | .warn => "warn"

/-- Something worth noting during an operation. -/
inductive Event where
  | registering (url : Url) (type : DeviceType)
  | registered (device : Device) (created : Bool)
  | removing (url : Url)
  | removed (user : String)
  | fetchingDevice (url : Url)
  | fetchingDevices (url : Url)
  | fetchedDevices (user : String) (count : Nat)
  | sendingNotification (url : Url) (users devices : Nat)
  | acceptedNotification (users devices : Nat)
  | fetchingStatus (url : Url)
  /-- The last response of an exchange arrived. -/
  | answered (status : Status) (url : Url)
  | errorBodyUnreadable (status : Status) (fault : TransportFault)
  | requestFailed (report : Remote)
  deriving DecidableEq, Repr

/-- The value of a field. -/
inductive FieldValue where
  | text (s : String)
  | flag (b : Bool)
  | count (n : Nat)
  deriving DecidableEq, Repr

namespace Event

/-- The level of an event. -/
def level : Event → Level
  | .registered .. => .info
  | .removed .. => .info
  | .acceptedNotification .. => .info
  | .errorBodyUnreadable .. => .warn
  | .requestFailed .. => .warn
  | _ => .debug

/-- The message of an event. -/
def message : Event → String
  | .registering .. => "Registering device"
  | .registered .. => "Device registered"
  | .removing .. => "Removing device"
  | .removed .. => "Device removed"
  | .fetchingDevice .. => "Fetching device"
  | .fetchingDevices .. => "Fetching devices"
  | .fetchedDevices .. => "Fetched devices"
  | .sendingNotification .. => "Sending notification"
  | .acceptedNotification .. => "Notification accepted"
  | .fetchingStatus .. => "Fetching server status"
  | .answered .. => "Received postal response"
  | .errorBodyUnreadable .. => "Failed to read postal error body"
  | .requestFailed .. => "Postal request failed"

/-- The fields of an event. -/
def fields : Event → List (String × FieldValue)
  | .registering url type => [("url", .text url.text), ("device_type", .text type.tag)]
  | .registered device created =>
    [("user", .text device.user), ("device_type", .text device.type.tag),
      ("created", .flag created)]
  | .removing url => [("url", .text url.text)]
  | .removed user => [("user", .text user)]
  | .fetchingDevice url => [("url", .text url.text)]
  | .fetchingDevices url => [("url", .text url.text)]
  | .fetchedDevices user count => [("user", .text user), ("count", .count count)]
  | .sendingNotification url users devices =>
    [("url", .text url.text), ("users", .count users), ("devices", .count devices)]
  | .acceptedNotification users devices =>
    [("users", .count users), ("devices", .count devices)]
  | .fetchingStatus url => [("url", .text url.text)]
  | .answered status url => [("status", .text status.text), ("url", .text url.text)]
  | .errorBodyUnreadable status fault =>
    [("status", .text status.text), ("error", .text fault.summary)]
  | .requestFailed report =>
    [("status", .text report.status.text), ("error", .text report.describe)]

end Event

end PushRegistry.Client
