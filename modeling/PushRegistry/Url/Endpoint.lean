import PushRegistry.Url.Basic

/-!
# `PushRegistry.Url.Endpoint`: the resources of a server

A server is given by host and port. Its resources are addressed by segments appended to the
base URL, and identifiers become single segments, so those that a path cannot carry are
refused beforehand.
-/

set_option autoImplicit false

namespace PushRegistry

/-- Where a server listens. -/
structure ServerAddress where
  host : String
  port : Nat
  deriving DecidableEq, Repr

/-- An identifier that becomes part of an address. -/
inductive Identifier where
  | user
  | deviceToken
  deriving DecidableEq, Repr

/-- The name of an identifier in messages. -/
def Identifier.name : Identifier → String
  | .user => "user"
  | .deviceToken => "device_token"

/-- Why an address cannot be built. -/
inductive AddressFault where
  | invalidUrl (fault : UrlFault)
  | missing (field : Identifier)
  | dotSegment (field : Identifier)
  deriving DecidableEq, Repr

namespace ServerAddress

variable [Url.Idna]

/-- The URL of the server itself. Host and port are written next to each other and then read as
one text, so that a host may bring a path, a query or credentials along. -/
def baseUrl (server : ServerAddress) : Except UrlFault Url :=
  Url.parseAfterScheme .http <| Url.strip <|
    "//".toList ++ server.host.toList ++ ':' :: Nat.toDigits 10 server.port ++ ['/']

/-- The resource below the server's base that the segments name. -/
def endpoint (server : ServerAddress) (segments : List String) : Except AddressFault Url :=
  match server.baseUrl with
  | .error fault => .error (.invalidUrl fault)
  | .ok base =>
    .ok { base with
      path := Url.Path.extend (Url.Path.dropTrailingEmpty base.path)
        (segments.map String.toList) }

/-- Refuses identifiers that no segment can stand for: the empty one and the dot segments. -/
def require (field : Identifier) (value : String) : Except AddressFault Unit :=
  if value = "" then .error (.missing field)
  else if value = "." ∨ value = ".." then .error (.dotSegment field)
  else .ok ()

/-- The resource of one device of a user. -/
def deviceUrl (server : ServerAddress) (user token : String) : Except AddressFault Url := do
  require .user user
  require .deviceToken token
  server.endpoint ["v1", "users", user, "devices", token]

/-- The resource of all devices of a user. -/
def devicesUrl (server : ServerAddress) (user : String) : Except AddressFault Url := do
  require .user user
  server.endpoint ["v1", "users", user, "devices"]

/-- The resource that takes notifications. -/
def notifyUrl (server : ServerAddress) : Except AddressFault Url :=
  server.endpoint ["v1", "notify"]

/-- The resource that reports the counters. -/
def statusUrl (server : ServerAddress) : Except AddressFault Url :=
  server.endpoint ["status"]

end ServerAddress

end PushRegistry
