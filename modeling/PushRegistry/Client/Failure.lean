import PushRegistry.ErrorDocument
import PushRegistry.Http.Exchange
import PushRegistry.Text.Blank
import PushRegistry.Url.Endpoint

/-!
# `PushRegistry.Client.Failure`: how operations fail

An operation fails before anything is sent, or without an answer, or with an answer that is
a failure or cannot be understood. `Remote.ofResponse` reads what a server says about a
failure: its error document, or the whole body, or at least the status.
-/

set_option autoImplicit false

namespace PushRegistry.Client

open PushRegistry.Http (Status Response TransportFault)

/-- A failure that the server reported. -/
structure Remote where
  status : Status
  message : String
  domain : Option String
  code : Option Int
  deriving DecidableEq, Repr

/-- The failure that a response with a given text reports. -/
def Remote.ofText (status : Status) (text : String) : Remote :=
  match ErrorDocument.parse text with
  | .ok doc => ⟨status, doc.message, doc.domain, doc.code⟩
  | .error _ =>
    ⟨status, if Text.isBlankString text then "HTTP " ++ status.text else text, none, none⟩

/-- The failure that a response reports. A body that ends too early counts as empty. -/
def Remote.ofResponse [Text.MultibyteDecoders] (response : Response) : Remote :=
  .ofText response.status (if response.truncated then "" else response.text)

/-- The account of a reported failure that users see. -/
def Remote.describe (r : Remote) : String :=
  "Postal returned " ++ r.status.text ++ ": " ++ r.message

/-- Why an operation failed. -/
inductive Failure where
  /-- The address could not be built. -/
  | address (fault : AddressFault)
  /-- There was no answer, or its body could not be read. -/
  | transport (fault : TransportFault)
  /-- The server reported a failure. -/
  | remote (report : Remote)
  /-- The body of the answer was not the expected document. -/
  | decode (fault : Json.Fault)
  deriving DecidableEq, Repr

namespace Failure

/-- The account of a failure that users see. -/
def message : Failure → String
  | .address (.invalidUrl fault) => "Invalid URL: " ++ fault.message
  | .address (.missing field) => "Missing required field: " ++ field.name
  | .address (.dotSegment field) => field.name ++ " cannot be \".\" or \"..\""
  | .transport fault => "Failed to reach postal: " ++ fault.summary
  | .remote report => report.describe
  | .decode fault => "Invalid response body: " ++ fault.message

/-- The status of a reported failure. -/
def status? : Failure → Option Status
  | .remote report => some report.status
  | _ => none

/-- Whether the server reported that there is no such thing. -/
def isNotFound (f : Failure) : Bool := f.status? == some Status.notFound

/-- The accounts of the causes behind a failure, the nearest first. -/
def causes : Failure → List String
  | .transport fault => fault.summary :: fault.causes
  | .decode fault => [fault.message]
  | _ => []

end Failure

end PushRegistry.Client
