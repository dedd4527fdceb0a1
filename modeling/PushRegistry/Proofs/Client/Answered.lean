import PushRegistry.Client.Operation
import PushRegistry.Proofs.Client.SingleExchange
import PushRegistry.Proofs.ErrorText
import PushRegistry.Proofs.Http.Encoding
import PushRegistry.Proofs.WireFormat
import PushRegistry.Registry.Server

/-!
# `PushRegistry.Proofs.Client.Answered`: an operation that a registry server answers

A registry server answers every request at once and never redirects, so an operation against it
is one exchange: `perform_peer` gives its outcome and the new state of the server. What the
client makes of the documents of the server is in `result_document` and `result_error`.
-/

set_option autoImplicit false

namespace PushRegistry.Client

open PushRegistry.Http
open PushRegistry.Registry
open PushRegistry.Text

/-! ### Requests and replies -/

variable {op : Operation}

theorem method_ne_head (op : Operation) : op.method ≠ .head := by
  cases op <;> exact Method.noConfusion

/-- The request of an operation whose URL has no user name and no password goes to that URL. -/
theorem request_url {url : Url} (h : Operation.credentials? url = none) :
    (op.request url).url = url := by
  rw [Operation.request, h]
  rfl

theorem location_delivered (response : Response) (request : Request) :
    (response.delivered request).location = response.location := by
  unfold Response.delivered
  split
  · rfl
  · rfl

/-- An answer that may have a body is received as it was written. -/
theorem delivered_eq {reply : Reply} (url : Url) (h204 : reply.status.code ≠ 204)
    (h304 : reply.status.code ≠ 304) :
    reply.toResponse.delivered (op.request url) = reply.toResponse := by
  have hhead : (op.request url).method ≠ .head := method_ne_head op
  unfold Response.delivered
  rw [if_neg]
  rintro (h | h | h)
  · exact h204 h
  · exact h304 h
  · exact hhead h

/-- The content type of documents names no encoding. -/
theorem namesUtf8_document (status : Status) (v : Json.Value) :
    (Reply.document status v).toResponse.NamesUtf8 := by
  -- The content type is a constant, so the search for a label in it can be run.
  have hlabel : (Reply.document status v).toResponse.label? = none := by rfl
  intro label h
  rw [hlabel] at h
  cases h

/-- The client reads a document as the server wrote it, if it can be decoded at all. -/
theorem readBody_document {α : Type} {decode : List UInt8 → Except Json.Fault α} {status : Status}
    {v : Json.Value} {a : α} (h : decode (Utf8.ofString v.compact) = .ok a) (url : Url) :
    Operation.readBody ⟨(Reply.document status v).toResponse, url⟩ decode = .ok a := by
  unfold Operation.readBody
  show Except.mapError _ (decode (Utf8.ofString v.compact)) = .ok a
  rw [h]
  rfl

/-! ### One exchange -/

variable [Web]

/-- A response without a location is no redirection. -/
theorem redirect?_of_location_eq_none {r : Request} {response : Response}
    (h : response.location = none) : r.redirect? response = none := by
  unfold Request.redirect?
  rw [h]
  split
  · rfl
  · rfl

/-- A server answers a request that can be sent with what `Server.handle` says. -/
theorem send_peer {request : Request} (hsendable : request.url.isSendable = true)
    (server : Server) :
    send Server.peer request server
      = (.ok ⟨(server.handle (Server.arrival request)).1.toResponse.delivered request,
          request.url⟩, (server.handle (Server.arrival request)).2) := by
  rw [send_of_isSendable hsendable]
  exact sendWith_final rfl (redirect?_of_location_eq_none (location_delivered _ _))

/-- An operation at a server: it is answered once, and the client concludes from that answer. -/
theorem perform_peer {address : ServerAddress} {url : Url}
    (hurl : op.url address = .ok url) (hsendable : url.isSendable = true)
    (hcredentials : Operation.credentials? url = none) (server : Server) :
    (perform Server.peer address op server).2
        = (server.handle (Server.arrival (op.request url))).2 ∧
      (perform Server.peer address op server).1.result
        = (conclude op ⟨(server.handle (Server.arrival (op.request url))).1.toResponse.delivered
            (op.request url), url⟩).result := by
  have hrequest : (op.request url).url = url := request_url hcredentials
  -- One exchange, since a server never redirects.
  have hsend := send_peer (hrequest.symm ▸ hsendable) server
  obtain ⟨hstate, hresult⟩ := perform_of_url hurl Server.peer server
  rw [hstate, hresult, hsend, hrequest]
  exact ⟨rfl, rfl⟩

/-! ### Conclusions -/

variable {answer : Answer}

theorem result_of_isSuccess (h : answer.response.status.isSuccess = true) :
    (conclude op answer).result = op.read answer := by
  unfold conclude
  rw [if_pos h]
  cases op.read answer with
  | ok result => rfl
  | error failure => rfl

theorem result_of_not_isSuccess (h : answer.response.status.isSuccess = false) :
    (conclude op answer).result = .error (.remote (Remote.ofResponse answer.response)) := by
  unfold conclude
  rw [if_neg (by rw [h]; exact Bool.false_ne_true)]

/-- The status of a reported failure is that of the response. -/
theorem status_ofResponse (response : Response) :
    (Remote.ofResponse response).status = response.status := by
  rw [Remote.ofResponse, Remote.ofText]
  split
  · rfl
  · rfl

/-! ### What the server writes -/

/-- An object is printed without a byte order mark. -/
theorem text_document (status : Status) (ms : List (String × Json.Value)) :
    (Reply.document status (.object ms)).toResponse.text = (Json.Value.object ms).compact := by
  obtain ⟨u, hu, -⟩ := Json.Layout.compact.bytes_object 0 ms
  refine Response.text_eq (namesUtf8_document _ _) rfl ?_
  -- The first byte is a brace.
  rw [Json.ofString_compact, hu]
  rintro b ⟨⟩
  decide

/-- The client reads a failure as the server wrote it. -/
theorem remote_error (status : Status) (message domain : String) {code : Int}
    (hcode : Decimal.Numeral.FitsInt64 code) :
    Remote.ofResponse (Reply.error status message domain code).toResponse
      = ⟨status, message, some domain, some code⟩ := by
  have hfits : ErrorDocument.CodeFits ⟨message, some domain, some code⟩ := by
    intro k hk
    obtain rfl := Option.some.inj hk
    exact hcode
  have htext : (Reply.error status message domain code).toResponse.text
      = (ErrorDocument.toValue ⟨message, some domain, some code⟩).compact := text_document _ _
  have hresponse : Remote.ofResponse (Reply.error status message domain code).toResponse
      = Remote.ofText status (Reply.error status message domain code).toResponse.text := rfl
  rw [hresponse, htext, Remote.ofText, ErrorDocument.parse_compact hfits]

/-! ### What the client returns -/

variable {url : Url} {status : Status}

/-- A document that reports success leads to what the operation reads in it. -/
theorem result_document (hsuccess : status.isSuccess = true) (h204 : status.code ≠ 204)
    (v : Json.Value) :
    (conclude op ⟨(Reply.document status v).toResponse.delivered (op.request url), url⟩).result
      = op.read ⟨(Reply.document status v).toResponse, url⟩ := by
  have h304 : status.code ≠ 304 := by
    intro h
    rw [Status.isSuccess, h] at hsuccess
    cases hsuccess
  rw [delivered_eq url h204 h304]
  exact result_of_isSuccess hsuccess

/-- An error document leads to the failure that it describes. -/
theorem result_error (hfailure : status.isSuccess = false)
    (h304 : status.code ≠ 304) (message domain : String) {code : Int}
    (hcode : Decimal.Numeral.FitsInt64 code) :
    (conclude op ⟨(Reply.error status message domain code).toResponse.delivered (op.request url),
        url⟩).result
      = .error (.remote ⟨status, message, some domain, some code⟩) := by
  have h204 : status.code ≠ 204 := by
    intro h
    rw [Status.isSuccess, h] at hfailure
    cases hfailure
  rw [delivered_eq url h204 h304, result_of_not_isSuccess hfailure, remote_error _ _ _ hcode]

end PushRegistry.Client
