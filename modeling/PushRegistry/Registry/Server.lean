import PushRegistry.ErrorDocument
import PushRegistry.Http.Exchange
import PushRegistry.Registry.Route
import PushRegistry.Registry.Store

/-!
# `PushRegistry.Registry.Server`: a registry in memory

A server answers requests out of a `Store` and records every one of them, whatever the
answer. `Server.peer` puts it on the other side of a client.
-/

set_option autoImplicit false

namespace PushRegistry.Registry

open PushRegistry.Http (Method Status Request Response Delivery Peer)
open PushRegistry.Text

/-- A request as it arrives: the path is still encoded, and the query is left out. Bytes that are no
request, or too many for its first lines, are refused before and are neither recorded nor
answered here. -/
structure Arrival where
  method : Method
  path : List Char
  contentType : Option String
  userAgent : Option String
  body : List UInt8
  deriving DecidableEq, Repr

/-- A request as it is recorded. -/
structure Recorded where
  method : String
  path : String
  contentType : Option String
  userAgent : Option String
  body : String
  deriving DecidableEq, Repr

/-- The record of a request. Bytes that are not text are recorded as U+FFFD. -/
def Arrival.record (a : Arrival) : Recorded where
  method := a.method.name
  path := String.ofList a.path
  contentType := a.contentType
  userAgent := a.userAgent
  body := Utf8.toStringLossy a.body

/-- An answer of a server. -/
structure Reply where
  status : Status
  contentType : Option String
  allow : Option String
  body : List UInt8
  deriving DecidableEq, Repr

namespace Reply

/-- An answer without a body. -/
def bare (status : Status) : Reply := ⟨status, none, none, []⟩

/-- A document. -/
def document (status : Status) (v : Json.Value) : Reply :=
  ⟨status, some "application/json", none, Utf8.ofString v.compact⟩

/-- A plain text. -/
def plain (status : Status) (text : String) : Reply :=
  ⟨status, some "text/plain; charset=utf-8", none, Utf8.ofString text⟩

/-- An error document. -/
def error (status : Status) (message domain : String) (code : Int) : Reply :=
  document status (ErrorDocument.toValue ⟨message, some domain, some code⟩)

/-- There is no such device. -/
def deviceNotFound : Reply :=
  error .notFound "The device could not be found." "PostalDeviceError" 1

/-- A device was expected in the body. -/
def invalidDevice : Reply :=
  error .badRequest "the json structure provided is invalid." "PostalJsonError" 0

/-- A notification was expected in the body. -/
def invalidPayload : Reply :=
  error .badRequest "Missing or invalid fields in JSON payload." "PostalJsonError" 0

/-- An identifier in the path is not text. -/
def undecodable (name : String) : Reply :=
  plain .badRequest ("Invalid URL: Invalid UTF-8 in `" ++ name ++ "`")

/-- The body is longer than what is read of one. -/
def bodyTooLong : Reply :=
  plain .payloadTooLarge "Failed to buffer the request body: length limit exceeded"

/-- The body is not text. -/
def unreadableBody (fault : Utf8.Fault) : Reply :=
  plain .badRequest ("Request body didn't contain valid UTF-8: " ++ fault.message)

/-- The same answer without its body. -/
def withoutBody (r : Reply) : Reply := { r with body := [] }

/-- The answer as a client receives it. -/
def toResponse (r : Reply) : Response := ⟨r.status, r.contentType, none, r.body, false⟩

end Reply

/-! ### Handlers -/

/-- Lists the devices of a user. -/
def listDevices (user : String) (s : Store) : Reply :=
  .document .ok (Device.listToValue (s.registrations.ofUser user))

/-- Shows a device. -/
def getDevice (user token : String) (s : Store) : Reply :=
  match s.registrations.find? (user, token) with
  | some d => .document .ok d.toValue
  | none => .deviceNotFound

/-- How many bytes of a body are read. -/
def bodyLimit : Nat := 2097152

/-- The answer to a request whose body cannot be taken as a text. The length is looked at
first. -/
def bodyRefusal? (body : List UInt8) : Option Reply :=
  if bodyLimit < body.length then some .bodyTooLong
  else (Utf8.fault? body).map .unreadableBody

/-- A body over the limit is refused for its length, whatever it holds. -/
theorem bodyRefusal?_of_length {body : List UInt8} (h : bodyLimit < body.length) :
    bodyRefusal? body = some .bodyTooLong := by
  rw [bodyRefusal?, if_pos h]

/-- A body is taken if it is a text within the limit. -/
theorem bodyRefusal?_eq_none_iff {body : List UInt8} :
    bodyRefusal? body = none ↔ body.length ≤ bodyLimit ∧ Utf8.fault? body = none := by
  rw [bodyRefusal?]
  split
  next hlong => exact iff_of_false nofun fun h => absurd h.1 (Nat.not_le_of_lt hlong)
  next hshort =>
    rw [Option.map_eq_none_iff]
    exact ⟨fun h => ⟨Nat.le_of_not_lt hshort, h⟩, And.right⟩

/-- A body that is not taken is answered with a failure. -/
theorem isSuccess_of_bodyRefusal? {body : List UInt8} {refusal : Reply}
    (h : bodyRefusal? body = some refusal) : refusal.status.isSuccess = false := by
  rw [bodyRefusal?] at h
  split at h
  · cases h
    rfl
  · obtain ⟨fault, -, rfl⟩ := Option.map_eq_some_iff.mp h
    rfl

/-- Registers a device. User and token come from the path. -/
def putDevice (user token : String) (body : List UInt8) (s : Store) : Reply × Store :=
  match bodyRefusal? body with
  | some refusal => (refusal, s)
  | none =>
    match Device.decode body with
    | .error _ => (.invalidDevice, s)
    | .ok given =>
      let device : Device := ⟨user, token, given.type⟩
      let status := if s.registrations.contains device.key then Status.ok else Status.created
      (.document status device.toValue, s.put device)

/-- Removes a device. -/
def deleteDevice (user token : String) (s : Store) : Reply × Store :=
  if s.registrations.contains (user, token) then
    (.bare .noContent, s.remove (user, token))
  else (.deviceNotFound, s)

/-- Accepts a notification. A body that is no document counts as one without any parts. -/
def notify (body : List UInt8) (s : Store) : Reply × Store :=
  match bodyRefusal? body with
  | some refusal => (refusal, s)
  | none =>
    let payload := match Json.Value.decode body with
      | .ok v => v
      | .error _ => .null
    if isPayload payload then (.bare .ok, s.notify payload) else (.invalidPayload, s)

/-- Answers a request to a resource. -/
def Route.serve (route : Route) (arrival : Arrival) (s : Store) : Reply × Store :=
  match route, arrival.method with
  | .devices user, .get => (list user, s)
  | .devices user, .head => ((list user).withoutBody, s)
  | .device user token, .get => (device user token, s)
  | .device user token, .head => ((device user token).withoutBody, s)
  | .device user token, .put => named user token fun u t => putDevice u t arrival.body s
  | .device user token, .delete => named user token fun u t => deleteDevice u t s
  | .notify, .post => Registry.notify arrival.body s
  | .status, .get => (.document .ok s.status.toValue, s)
  | .status, .head => ((Reply.document .ok s.status.toValue).withoutBody, s)
  | _, _ => ({ Reply.bare .methodNotAllowed with allow := some route.allowHeader }, s)
where
  /-- The devices of a user whose name is still encoded. -/
  list (user : List Char) : Reply :=
    match decodeIdentifier "user" user with
    | .ok u => listDevices u s
    | .error name => .undecodable name
  /-- A device whose identifiers are still encoded. -/
  device (user token : List Char) : Reply :=
    (named user token fun u t => (getDevice u t s, s)).1
  /-- Decodes user and token for an action. -/
  named (user token : List Char) (action : String → String → Reply × Store) : Reply × Store :=
    match decodeIdentifier "user" user, decodeIdentifier "token" token with
    | .error name, _ => (.undecodable name, s)
    | _, .error name => (.undecodable name, s)
    | .ok u, .ok t => action u t

/-- Answers a request. -/
def Store.answer (s : Store) (arrival : Arrival) : Reply × Store :=
  match Route.ofPath? arrival.path with
  | some route => route.serve arrival s
  | none =>
    let reply := Reply.bare .notFound
    (reply, s)

/-- A server: its memory and the record of all requests, in order. -/
structure Server where
  store : Store
  log : List Recorded

namespace Server

/-- A server that has just started. -/
def fresh : Server := ⟨Store.empty, []⟩

/-- Records a request and answers it. -/
def handle (server : Server) (arrival : Arrival) : Reply × Server :=
  let (reply, store) := server.store.answer arrival
  (reply, ⟨store, server.log ++ [arrival.record]⟩)

/-- A client's request as it arrives. -/
def arrival (request : Request) : Arrival where
  method := request.method
  path := request.url.pathText
  contentType := request.contentType
  userAgent := some request.userAgent
  body := request.body

/-- The server on the other side of a client. -/
def peer : Peer Server := fun request server =>
  let (reply, server) := server.handle (arrival request)
  (.answered (reply.toResponse.delivered request), server)

end Server

end PushRegistry.Registry
