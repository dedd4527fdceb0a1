import PushRegistry.Client.Event
import PushRegistry.Notification
import PushRegistry.ServerStatus
import PushRegistry.Text.Base64

/-!
# `PushRegistry.Client.Operation`: what a client can ask for

Each operation is one exchange. All of them run in the same way: build the address, announce
the operation, send the request, check the status, read the result, say what was done.
`perform` returns the result, the log and the new state of the other side.
-/

set_option autoImplicit false

namespace PushRegistry.Client

open PushRegistry.Http
open PushRegistry.Text

/-- How the client names itself. -/
def userAgent : String := "postal-client/0.1.0"

/-- Something a client can ask a server for. -/
inductive Operation where
  /-- Registers a device or updates its type. -/
  | add (device : Device)
  /-- Removes the registration of a token for a user. -/
  | remove (user token : String)
  /-- Fetches one device of a user. -/
  | get (user token : String)
  /-- Fetches all devices of a user. -/
  | list (user : String)
  /-- Sends a notification. -/
  | notify (notification : Notification)
  /-- Fetches the counters of the server. -/
  | status
  deriving Repr

namespace Operation

/-- What an operation returns. -/
abbrev Result : Operation → Type
  | .add _ => Device
  | .remove _ _ => Unit
  | .get _ _ => Device
  | .list _ => List Device
  | .notify _ => Unit
  | .status => ServerStatus

/-- The resource that an operation addresses. -/
def url [Url.Idna] (op : Operation) (server : ServerAddress) : Except AddressFault Url :=
  match op with
  | .add device => server.deviceUrl device.user device.token
  | .remove user token => server.deviceUrl user token
  | .get user token => server.deviceUrl user token
  | .list user => server.devicesUrl user
  | .notify _ => server.notifyUrl
  | .status => server.statusUrl

/-- The event that announces an operation. -/
def announcement (op : Operation) (url : Url) : Event :=
  match op with
  | .add device => .registering url device.type
  | .remove _ _ => .removing url
  | .get _ _ => .fetchingDevice url
  | .list _ => .fetchingDevices url
  | .notify n => .sendingNotification url n.users.length n.devices.length
  | .status => .fetchingStatus url

/-- The method of the request. -/
def method : Operation → Method
  | .add _ => .put
  | .remove _ _ => .delete
  | .get _ _ => .get
  | .list _ => .get
  | .notify _ => .post
  | .status => .get

/-- The document that the request carries. -/
def document? : Operation → Option Json.Value
  | .add device => some device.toValue
  | .notify n => some n.toValue
  | _ => none

/-- The body of the request. -/
def body (op : Operation) : List UInt8 :=
  (op.document?.map fun v => Utf8.ofString v.compact).getD []

theorem body_of_document? {op : Operation} {v : Json.Value} (h : op.document? = some v) :
    op.body = Utf8.ofString v.compact := by
  rw [body, h, Option.map_some, Option.getD_some]

/-- The media types that the client accepts in the answer. -/
def accept : Operation → String
  | .remove _ _ => "*/*"
  | .notify _ => "*/*"
  | _ => "application/json"

/-- User name and password of a URL, decoded. A name that is not text counts for nothing. -/
def credentials? (url : Url) : Option (String × Option String) := do
  let username ← Percent.decodeString? url.username
  let password := if url.password.isEmpty then none else Percent.decodeString? url.password
  if username.isEmpty ∧ password.isNone then none else some (username, password)

/-- The authorization for a user name and a password. -/
def authorization (credentials : String × Option String) : String :=
  let text := credentials.1 ++ ":" ++ credentials.2.getD ""
  "Basic " ++ String.ofList (Base64.encode (Utf8.ofString text))

/-- The request of an operation. -/
def request (op : Operation) (url : Url) : Request where
  method := op.method
  url := if (credentials? url).isSome then url.withoutUserinfo else url
  accept := op.accept
  contentType := op.document?.map fun _ => "application/json"
  userAgent := userAgent
  authorization := (credentials? url).map authorization
  body := op.body

/-- Reads the body of an answer with `decode`. -/
def readBody {α : Type} (answer : Answer) (decode : List UInt8 → Except Json.Fault α) :
    Except Failure α :=
  if answer.response.truncated then .error (.transport (.truncatedBody answer.url))
  else (decode answer.response.body).mapError .decode

/-- The result that a successful answer holds. -/
def read (op : Operation) (answer : Answer) : Except Failure op.Result :=
  match op with
  | .add _ => readBody answer Device.decode
  | .remove _ _ => .ok ()
  | .get _ _ => readBody answer Device.decode
  | .list _ => readBody answer Device.decodeList
  | .notify _ => .ok ()
  | .status => readBody answer ServerStatus.decode

/-- The events that say what was done. -/
def conclusion (op : Operation) (status : Status) (result : op.Result) : List Event :=
  match op, result with
  | .add _, device => [.registered device (status = Status.created)]
  | .remove user _, _ => [.removed user]
  | .get _ _, _ => []
  | .list user, devices => [.fetchedDevices user devices.length]
  | .notify n, _ => [.acceptedNotification n.users.length n.devices.length]
  | .status, _ => []

end Operation

/-- What is left of an operation when it is over. -/
structure Outcome (op : Operation) where
  result : Except Failure op.Result
  log : List Event

variable [Web]

/-- The events about an answer that reports a failure. -/
def failureEvents (answer : Answer) : List Event :=
  (if answer.response.truncated then
    [Event.errorBodyUnreadable answer.response.status (.truncatedBody answer.url)]
  else []) ++ [.requestFailed (Remote.ofResponse answer.response)]

/-- What an operation makes of the last response. -/
def conclude (op : Operation) (answer : Answer) : Outcome op :=
  let status := answer.response.status
  let received := Event.answered status answer.url
  if status.isSuccess then
    match op.read answer with
    | .ok result => ⟨.ok result, received :: op.conclusion status result⟩
    | .error failure => ⟨.error failure, [received]⟩
  else ⟨.error (.remote (Remote.ofResponse answer.response)), received :: failureEvents answer⟩

variable {σ : Type}

/-- Runs an operation. -/
def perform (peer : Peer σ) (server : ServerAddress) (op : Operation) (s : σ) : Outcome op × σ :=
  match op.url server with
  | .error fault => (⟨.error (.address fault), []⟩, s)
  | .ok url =>
    let announced := op.announcement url
    match send peer (op.request url) s with
    | (.error fault, s) => (⟨.error (.transport fault), [announced]⟩, s)
    | (.ok answer, s) =>
      let outcome := conclude op answer
      (⟨outcome.result, announced :: outcome.log⟩, s)

end PushRegistry.Client
