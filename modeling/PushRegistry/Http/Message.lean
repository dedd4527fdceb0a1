import PushRegistry.Http.MediaType
import PushRegistry.Http.Status
import PushRegistry.Text.Charset
import PushRegistry.Url.Basic

/-!
# `PushRegistry.Http.Message`: requests and responses

The parts of HTTP messages that clients and servers of a registry look at.
-/

set_option autoImplicit false

namespace PushRegistry.Http

open PushRegistry.Text

/-- What a request asks for. -/
inductive Method where
  | get
  | head
  | post
  | put
  | delete
  | other (name : String)
  deriving DecidableEq, Repr

/-- The name of a method in a request. -/
def Method.name : Method → String
  | .get => "GET"
  | .head => "HEAD"
  | .post => "POST"
  | .put => "PUT"
  | .delete => "DELETE"
  | .other name => name

/-- The method with a name. Names are case-sensitive. -/
def Method.ofName : String → Method
  | "GET" => .get
  | "HEAD" => .head
  | "POST" => .post
  | "PUT" => .put
  | "DELETE" => .delete
  | name => .other name

/-- A request of a client. User name and password of its URL are sent as authorization. -/
structure Request where
  method : Method
  url : Url
  accept : String
  contentType : Option String
  userAgent : String
  authorization : Option String
  /-- The body; empty if there is none. -/
  body : List UInt8
  deriving DecidableEq, Repr

/-- A response of a server. -/
structure Response where
  status : Status
  contentType : Option String
  /-- Where to look instead. -/
  location : Option String
  body : List UInt8
  /-- Whether the server closed the connection before the end of the body. -/
  truncated : Bool
  deriving DecidableEq, Repr

namespace Response

/-- Whether a header value can be read as text. -/
def isReadable (value : String) : Bool :=
  value.toList.all fun c => c = '\t' || (0x20 ≤ c.toNat && c.toNat < 0x7f)

/-- The encoding that the content type declares; UTF-8 if it declares none. -/
def charset (r : Response) : Charset :=
  let declared : Option Charset := do
    let value ← r.contentType.filter isReadable
    let label ← MediaType.parameter? (← MediaType.parse? value.toList) "charset"
    Charset.ofLabel? label
  declared.getD .utf8

/-- The body as text. -/
def text [MultibyteDecoders] (r : Response) : String := r.charset.decode r.body

end Response

end PushRegistry.Http
