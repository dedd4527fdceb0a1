import PushRegistry.Json.Reader

/-!
# `PushRegistry.Notification`: what is sent to devices

A notification carries one payload for each platform and names its recipients by user and
by device token. It is built by edits, each of which either sets an entry or adds
recipients; servers want all payloads present, so empty ones are written as well.
-/

set_option autoImplicit false

namespace PushRegistry

open PushRegistry.Json (Reader Members)

/-- A notification for users and for single devices. -/
structure Notification where
  /-- The payload for the Apple push service. -/
  aps : Members Json.Value
  /-- The data fields for Android cloud to device messaging. -/
  c2dm : Members Json.Value
  /-- The data fields for Google cloud messaging. -/
  gcm : Members Json.Value
  /-- The users all of whose devices are addressed. -/
  users : List String
  /-- The device tokens that are addressed. -/
  devices : List String
  /-- Of several notifications with one key a device may show only the last. -/
  collapseKey : Option String
  deriving BEq, Repr

namespace Notification

/-- A notification without content and recipients. -/
def empty : Notification := ⟨[], [], [], [], [], none⟩

/-! ### Building -/

/-- Sets the text shown on Apple devices. -/
def withAlert (n : Notification) (alert : String) : Notification :=
  { n with aps := n.aps.insert "alert" (.string alert) }

/-- Sets the badge count shown on Apple devices. -/
def withBadge (n : Notification) (badge : UInt32) : Notification :=
  { n with aps := n.aps.insert "badge" (.nat badge.toNat) }

/-- Sets the sound played on Apple devices. -/
def withSound (n : Notification) (sound : String) : Notification :=
  { n with aps := n.aps.insert "sound" (.string sound) }

/-- Sets a data field of both Android payloads. -/
def withData (n : Notification) (key : String) (value : Json.Value) : Notification :=
  { n with c2dm := n.c2dm.insert key value, gcm := n.gcm.insert key value }

/-- Sets the collapse key. -/
def withCollapseKey (n : Notification) (key : String) : Notification :=
  { n with collapseKey := some key }

/-- Adds users. -/
def toUsers (n : Notification) (users : List String) : Notification :=
  { n with users := n.users ++ users }

/-- Adds device tokens. -/
def toDevices (n : Notification) (devices : List String) : Notification :=
  { n with devices := n.devices ++ devices }

/-- One step of building a notification. -/
inductive Edit where
  | alert (text : String)
  | badge (count : UInt32)
  | sound (name : String)
  | data (key : String) (value : Json.Value)
  | collapseKey (key : String)
  | users (names : List String)
  | devices (tokens : List String)
  deriving BEq, Repr

/-- The notification after an edit. -/
def apply (n : Notification) : Edit → Notification
  | .alert text => n.withAlert text
  | .badge count => n.withBadge count
  | .sound name => n.withSound name
  | .data key value => n.withData key value
  | .collapseKey key => n.withCollapseKey key
  | .users names => n.toUsers names
  | .devices tokens => n.toDevices tokens

/-- The notification that edits build from nothing. -/
def build (edits : List Edit) : Notification := edits.foldl apply empty

/-- The notifications before the first edit and after each one. -/
def stages (edits : List Edit) : List Notification :=
  go empty edits
where
  /-- The stages from a notification on. -/
  go (n : Notification) : List Edit → List Notification
    | [] => [n]
    | e :: rest => n :: go (n.apply e) rest

/-! ### Documents -/

/-- The notification as a document. -/
def toValue (n : Notification) : Json.Value :=
  .object
    ([("aps", .object n.aps), ("c2dm", .object n.c2dm), ("gcm", .object n.gcm),
      ("users", .array (n.users.map .string)), ("devices", .array (n.devices.map .string))] ++
      (n.collapseKey.map fun key => ("collapse_key", Json.Value.string key)).toList)

/-- The fields of a notification that have been read so far. -/
structure Partial where
  aps : Option (Members Json.Value)
  c2dm : Option (Members Json.Value)
  gcm : Option (Members Json.Value)
  users : Option (List String)
  devices : Option (List String)
  collapseKey : Option (Option String)
  deriving Repr

namespace Partial

/-- No field has been read. -/
def empty : Partial := ⟨none, none, none, none, none, none⟩

/-- Reads a list of strings. -/
def strings (allowed : Nat) : Reader (List String) :=
  Reader.listOf (fun _ => Reader.stringValue) allowed

/-- Reads the member of the given name. -/
def member (allowed : Nat) (name : String) (p : Partial) : Reader Partial :=
  match name with
  | "aps" => do return { p with aps := ← Reader.once name p.aps (Reader.mapOfValues allowed) }
  | "c2dm" => do
    return { p with c2dm := ← Reader.once name p.c2dm (Reader.mapOfValues allowed) }
  | "gcm" => do return { p with gcm := ← Reader.once name p.gcm (Reader.mapOfValues allowed) }
  | "users" => do return { p with users := ← Reader.once name p.users (strings allowed) }
  | "devices" => do return { p with devices := ← Reader.once name p.devices (strings allowed) }
  | "collapse_key" => do
    return { p with
      collapseKey := ← Reader.once name p.collapseKey (Reader.optional Reader.stringValue) }
  | _ => Reader.unknownField p

/-- The notification; a field that was not given is empty. -/
def finish (p : Partial) : Notification where
  aps := p.aps.getD []
  c2dm := p.c2dm.getD []
  gcm := p.gcm.getD []
  users := p.users.getD []
  devices := p.devices.getD []
  collapseKey := p.collapseKey.getD none

end Partial

/-- The list of a notification's fields; those that are missing at its end are empty. -/
def listReader (allowed : Nat) : Reader Notification := do
  let aps ← Reader.element 0 (Reader.mapOfValues allowed) (return [])
  let c2dm ← Reader.element 1 (Reader.mapOfValues allowed) (return [])
  let gcm ← Reader.element 2 (Reader.mapOfValues allowed) (return [])
  let users ← Reader.element 3 (Partial.strings allowed) (return [])
  let devices ← Reader.element 4 (Partial.strings allowed) (return [])
  let collapseKey ← Reader.element 5 (Reader.optional Reader.stringValue) (return none)
  return ⟨aps, c2dm, gcm, users, devices, collapseKey⟩

/-- The members of a notification. -/
def objectReader (allowed : Nat) : Reader Notification := do
  return (← Reader.fields (Partial.member allowed) Partial.empty).finish

/-- Reads a notification. -/
def reader (allowed : Nat) : Reader Notification :=
  Reader.record "Notification" listReader objectReader allowed

/-- The notification that a text holds. -/
def decode (bytes : List UInt8) : Except Json.Fault Notification :=
  Reader.run (Reader.whole reader) bytes

/-! ### Documents that have been read -/

/-- The strings of a list that holds nothing else. -/
def stringItems? (v : Json.Value) : Option (List String) :=
  v.items?.bind fun items => items.mapM Json.Value.string?

/-- A string, or nothing for null. -/
def optionalString? : Json.Value → Option (Option String)
  | .null => some none
  | .string key => some (some key)
  | _ => none

namespace Partial

/-- The value of a field that may be given only once. -/
def once? {α : Type} (given value : Option α) : Option (Option α) :=
  if given.isSome then none else value.map some

/-- Takes in an entry of a map. -/
def entry? (p : Partial) (entry : String × Json.Value) : Option Partial :=
  let (name, v) := entry
  match name with
  | "aps" => do return { p with aps := ← once? p.aps v.members? }
  | "c2dm" => do return { p with c2dm := ← once? p.c2dm v.members? }
  | "gcm" => do return { p with gcm := ← once? p.gcm v.members? }
  | "users" => do return { p with users := ← once? p.users (stringItems? v) }
  | "devices" => do return { p with devices := ← once? p.devices (stringItems? v) }
  | "collapse_key" => do
    return { p with collapseKey := ← once? p.collapseKey (optionalString? v) }
  | _ => some p

end Partial

/-- The notification whose fields a list holds in their order. Fields that are missing at its end are
empty, and nothing may follow the last one. -/
def ofItems? (items : List Json.Value) : Option Notification :=
  let field {α : Type} (index : Nat) (read : Json.Value → Option α) (missing : α) : Option α :=
    (items[index]?).elim (some missing) read
  if 6 < items.length then none
  else do
    let aps ← field 0 Json.Value.members? []
    let c2dm ← field 1 Json.Value.members? []
    let gcm ← field 2 Json.Value.members? []
    let users ← field 3 stringItems? []
    let devices ← field 4 stringItems? []
    let collapseKey ← field 5 optionalString? none
    return ⟨aps, c2dm, gcm, users, devices, collapseKey⟩

/-- The notification that a document holds: the entries of a map are taken in one after the other, and
those that no field knows are passed over. -/
def ofValue? : Json.Value → Option Notification
  | .object members => (members.foldlM Partial.entry? Partial.empty).map Partial.finish
  | .array items => ofItems? items
  | _ => none

end Notification

end PushRegistry
