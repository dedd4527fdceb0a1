import PushRegistry.Json.Reader

/-!
# `PushRegistry.ServerStatus`: what a registry server has done

Counters that a server reports, and their documents.
-/

set_option autoImplicit false

namespace PushRegistry

open PushRegistry.Json (Reader)

/-- How many devices were notified on each platform. -/
structure NotifiedCounts where
  aps : Nat
  c2dm : Nat
  gcm : Nat
  deriving DecidableEq, Repr

/-- The counters of a server. -/
structure ServerStatus where
  devicesAdded : Nat
  devicesRemoved : Nat
  devicesUpdated : Nat
  devicesNotified : NotifiedCounts
  deriving DecidableEq, Repr

namespace NotifiedCounts

/-- Nothing was notified. -/
def zero : NotifiedCounts := ⟨0, 0, 0⟩

/-- The devices of all platforms. -/
def total (c : NotifiedCounts) : Nat := c.aps + c.c2dm + c.gcm

/-- The counts as a document. -/
def toValue (c : NotifiedCounts) : Json.Value :=
  .object [("aps", .nat c.aps), ("c2dm", .nat c.c2dm), ("gcm", .nat c.gcm)]

/-- The counts that have been read so far. -/
structure Partial where
  aps : Option Nat
  c2dm : Option Nat
  gcm : Option Nat
  deriving DecidableEq, Repr

namespace Partial

/-- No count has been read. -/
def empty : Partial := ⟨none, none, none⟩

/-- Reads the member of the given name. -/
def member (name : String) (p : Partial) : Reader Partial :=
  match name with
  | "aps" => do return { p with aps := ← Reader.once "aps" p.aps Reader.unsignedValue }
  | "c2dm" => do return { p with c2dm := ← Reader.once "c2dm" p.c2dm Reader.unsignedValue }
  | "gcm" => do return { p with gcm := ← Reader.once "gcm" p.gcm Reader.unsignedValue }
  | _ => Reader.unknownField p

/-- The counts, if every one has been read. -/
def finish (p : Partial) : Reader NotifiedCounts := do
  let aps ← Reader.required "aps" p.aps
  let c2dm ← Reader.required "c2dm" p.c2dm
  let gcm ← Reader.required "gcm" p.gcm
  return ⟨aps, c2dm, gcm⟩

end Partial

/-- The list of the counts. -/
def listReader : Reader NotifiedCounts := do
  let expected : Json.Expected := .elements "NotifiedCounts" 3
  let aps ← Reader.requiredElement expected 0 Reader.unsignedValue
  let c2dm ← Reader.requiredElement expected 1 Reader.unsignedValue
  let gcm ← Reader.requiredElement expected 2 Reader.unsignedValue
  return ⟨aps, c2dm, gcm⟩

/-- The members of the counts. -/
def objectReader : Reader NotifiedCounts := do
  (← Reader.fields Partial.member Partial.empty).finish

/-- Reads the counts. -/
def reader (allowed : Nat) : Reader NotifiedCounts :=
  Reader.record "NotifiedCounts" (fun _ => listReader) (fun _ => objectReader) allowed

end NotifiedCounts

namespace ServerStatus

/-- The counters of a server that has done nothing. -/
def zero : ServerStatus := ⟨0, 0, 0, NotifiedCounts.zero⟩

/-- The counters as a document. -/
def toValue (s : ServerStatus) : Json.Value :=
  .object [("devices_added", .nat s.devicesAdded), ("devices_removed", .nat s.devicesRemoved),
    ("devices_updated", .nat s.devicesUpdated), ("devices_notified", s.devicesNotified.toValue)]

/-- The counters that have been read so far. -/
structure Partial where
  added : Option Nat
  removed : Option Nat
  updated : Option Nat
  notified : Option NotifiedCounts
  deriving DecidableEq, Repr

namespace Partial

/-- No counter has been read. -/
def empty : Partial := ⟨none, none, none, none⟩

/-- Reads the member of the given name. -/
def member (allowed : Nat) (name : String) (p : Partial) : Reader Partial :=
  match name with
  | "devices_added" => do
    return { p with added := ← Reader.once name p.added Reader.unsignedValue }
  | "devices_removed" => do
    return { p with removed := ← Reader.once name p.removed Reader.unsignedValue }
  | "devices_updated" => do
    return { p with updated := ← Reader.once name p.updated Reader.unsignedValue }
  | "devices_notified" => do
    return { p with notified := ← Reader.once name p.notified (NotifiedCounts.reader allowed) }
  | _ => Reader.unknownField p

/-- The counters, if every one has been read. -/
def finish (p : Partial) : Reader ServerStatus := do
  let added ← Reader.required "devices_added" p.added
  let removed ← Reader.required "devices_removed" p.removed
  let updated ← Reader.required "devices_updated" p.updated
  let notified ← Reader.required "devices_notified" p.notified
  return ⟨added, removed, updated, notified⟩

end Partial

/-- The list of the counters. -/
def listReader (allowed : Nat) : Reader ServerStatus := do
  let expected : Json.Expected := .elements "ServerStatus" 4
  let added ← Reader.requiredElement expected 0 Reader.unsignedValue
  let removed ← Reader.requiredElement expected 1 Reader.unsignedValue
  let updated ← Reader.requiredElement expected 2 Reader.unsignedValue
  let notified ← Reader.requiredElement expected 3 (NotifiedCounts.reader allowed)
  return ⟨added, removed, updated, notified⟩

/-- The members of the counters. -/
def objectReader (allowed : Nat) : Reader ServerStatus := do
  (← Reader.fields (Partial.member allowed) Partial.empty).finish

/-- Reads the counters. -/
def reader (allowed : Nat) : Reader ServerStatus :=
  Reader.record "ServerStatus" listReader objectReader allowed

/-- The counters that a text holds. -/
def decode (bytes : List UInt8) : Except Json.Fault ServerStatus :=
  Reader.run (Reader.whole reader) bytes

end ServerStatus

end PushRegistry
