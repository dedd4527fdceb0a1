import PushRegistry.Http.Message

/-!
# `PushRegistry.Http.Exchange`: getting an answer

A `Peer` stands for everything beyond the client: it takes a request and either answers,
drops the connection or cannot be reached. `send` delivers a request and follows redirects
up to `redirectLimit` times; its answer is the last response and the URL that gave it. A redirect
to a URL that no request can be addressed to is not followed: its response is the answer.
-/

set_option autoImplicit false

namespace PushRegistry.Http

/-- What of the web is not part of this library: names in all scripts, the rules for references and
the encodings of East Asia. -/
class Web extends Url.Idna, Url.References, Text.MultibyteDecoders

/-- The web for a program that has none of the tables: it knows no names beyond ASCII and no other
schemes, and decodes nothing. -/
@[reducible] def Web.withoutTables : Web where
  toIdna := .withoutTables
  toReferences := .withoutTables
  decode _ bytes := bytes.map fun _ => '\uFFFD'

/-- What became of a request. -/
inductive Delivery where
  | answered (response : Response)
  /-- The connection was closed without an answer. -/
  | dropped
  /-- There was no connection. -/
  | unreachable
  deriving DecidableEq, Repr

/-- The other side of a connection, with a state of its own. -/
abbrev Peer (σ : Type) := Request → σ → Delivery × σ

/-- Why there is no answer, or none that could be read, and for which URL. -/
inductive TransportFault where
  /-- The URL cannot be put into a request. -/
  | unsendable (url : Url)
  | unreachable (url : Url)
  | dropped (url : Url)
  | tooManyRedirects (url : Url)
  /-- A redirect leads to a URL of a scheme that is not spoken. -/
  | foreignScheme (url : String)
  | truncatedBody (url : Url)
  deriving DecidableEq, Repr

namespace TransportFault

/-- What failed. -/
def summary : TransportFault → String
  | .unsendable url => "builder error for url (" ++ url.text ++ ")"
  | .unreachable url => "error sending request for url (" ++ url.text ++ ")"
  | .dropped url => "error sending request for url (" ++ url.text ++ ")"
  | .tooManyRedirects url => "error following redirect for url (" ++ url.text ++ ")"
  | .foreignScheme url => "builder error for url (" ++ url ++ ")"
  | .truncatedBody url => "error decoding response body for url (" ++ url.text ++ ")"

/-- The causes behind the failure, the nearest first. -/
def causes : TransportFault → List String
  | .unsendable _ => ["Parsed Url is not a valid Uri"]
  | .unreachable _ =>
    ["client error (Connect)", "tcp connect error", "Network is unreachable (os error 101)"]
  | .dropped _ => ["client error (SendRequest)", "connection closed before message completed"]
  | .tooManyRedirects _ => ["too many redirects"]
  | .foreignScheme _ => ["URL scheme is not allowed"]
  | .truncatedBody _ =>
    ["request or response body error", "error reading a body from connection",
      "end of file before message length reached"]

end TransportFault

/-- The response that ended an exchange and the URL it came from. -/
structure Answer where
  response : Response
  url : Url
  deriving DecidableEq, Repr

/-! ### Redirects -/

/-- How many redirects are followed. -/
def redirectLimit : Nat := 10

/-- Whether a status asks to look elsewhere. -/
def Status.isRedirect (s : Status) : Bool := [301, 302, 303, 307, 308].contains s.code

/-- The request without a body. -/
def Request.withoutBody (r : Request) (method : Method) : Request :=
  { r with method := method, body := [], contentType := none }

/-- The method and the body of a request that is repeated because of a status. -/
def Request.afterStatus (r : Request) (s : Status) : Request :=
  if s.code = 301 ∨ s.code = 302 then
    if r.method = .post then r.withoutBody .get else r
  else if s.code = 303 then
    if r.method = .get ∨ r.method = .head then r else r.withoutBody .get
  else r

/-- The request at another URL. The authorization does not leave the server it is for. -/
def Request.movedTo (r : Request) (url : Url) : Request :=
  { r with
    url := url
    authorization :=
      if url.host = r.url.host ∧ url.effectivePort = r.url.effectivePort then r.authorization
      else none }

/-- What a redirect asks for. -/
inductive Redirect where
  | request (next : Request)
  /-- A URL of a scheme that is not spoken. -/
  | foreign (url : String)
  deriving DecidableEq, Repr

section Sending

variable [Url.References]

/-- What a response asks for instead, if it is a redirect. One that leads to a URL that no request
can be addressed to is none. -/
def Request.redirect? (r : Request) (response : Response) : Option Redirect :=
  if response.status.isRedirect then do
    let reference ← response.location
    match ← Url.References.destination? r.url reference.toList with
    | .url url =>
      if url.isSendable then some (.request ((r.afterStatus response.status).movedTo url)) else none
    | .foreign url => some (.foreign url)
  else none

/-! ### Sending -/

variable {σ : Type}

/-- Sends a request and follows at most `redirects` redirects. -/
def sendWith (peer : Peer σ) (redirects : Nat) (request : Request) (s : σ) :
    Except TransportFault Answer × σ :=
  match peer request s with
  | (.unreachable, s) => (.error (.unreachable request.url), s)
  | (.dropped, s) => (.error (.dropped request.url), s)
  | (.answered response, s) =>
    match request.redirect? response, redirects with
    | none, _ => (.ok ⟨response, request.url⟩, s)
    -- The redirect that would be one too many is refused, wherever it leads.
    | some _, 0 => (.error (.tooManyRedirects request.url), s)
    | some (.foreign url), _ + 1 => (.error (.foreignScheme url), s)
    | some (.request next), n + 1 => sendWith peer n next s

/-- Sends a request, if one can be addressed to its URL, and follows redirects. -/
def send (peer : Peer σ) (request : Request) (s : σ) : Except TransportFault Answer × σ :=
  if request.url.isSendable then sendWith peer redirectLimit request s
  else (.error (.unsendable request.url), s)

end Sending

/-! ### Peers -/

variable {σ : Type}

/-- The peer when there is no network. -/
def Peer.offline : Peer σ := fun _ s => (.unreachable, s)

/-- The state of a scripted peer: the answers that are still to be given, and the requests
received so far, in order. -/
structure Script where
  responses : List Response
  received : List Request
  deriving DecidableEq, Repr

/-- A response as it travels: some statuses never have a body, and neither has an answer to
`HEAD`. -/
def Response.delivered (r : Response) (request : Request) : Response :=
  if r.status.code = 204 ∨ r.status.code = 304 ∨ request.method = .head then
    { r with body := [], truncated := false }
  else r

/-- A peer that gives prepared responses in order, the last one again and again. Without any it
drops every connection. -/
def Peer.scripted : Peer Script := fun request s =>
  let received := s.received ++ [request]
  match s.responses with
  | [] => (.dropped, ⟨[], received⟩)
  | [r] => (.answered (r.delivered request), ⟨[r], received⟩)
  | r :: rest => (.answered (r.delivered request), ⟨rest, received⟩)

end PushRegistry.Http
