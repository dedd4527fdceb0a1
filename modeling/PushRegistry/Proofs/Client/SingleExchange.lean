import PushRegistry.Client.Operation
import PushRegistry.Proofs.Http.Transcript

/-!
# `PushRegistry.Proofs.Client.SingleExchange`: how many requests an operation sends

An operation is written as one request, but `send` follows redirects on its behalf, and the
request that is answered in the end need not be the one that was written. The main statement,
`perform_single_iff`, says for every operation and every peer when the two are the same, and
what holds in all other cases.
-/

set_option autoImplicit false

namespace PushRegistry.Client

open PushRegistry.Http
open PushRegistry.Text

/-- What an operation sends, and what became of it. -/
def transcript [Web] {σ : Type} (peer : Peer σ) (server : ServerAddress) (op : Operation) (s : σ) :
    Transcript :=
  (perform peer.noted server op (s, [])).2.2

/-- The request that an operation stands for: a registration is put, a removal is a bare
deletion, a notification is posted, and everything else is fetched. -/
def Operation.StandsFor (op : Operation) (r : Request) : Prop :=
  match op with
  | .add device => r.method = .put ∧ r.contentType = some "application/json" ∧
      r.body = Utf8.ofString device.toValue.compact
  | .remove _ _ => r.method = .delete ∧ r.contentType = none ∧ r.body = []
  | .notify n => r.method = .post ∧ r.contentType = some "application/json" ∧
      r.body = Utf8.ofString n.toValue.compact
  | _ => r.method = .get ∧ r.contentType = none ∧ r.body = []

theorem Operation.standsFor_request (op : Operation) (url : Url) :
    op.StandsFor (op.request url) := by
  unfold Operation.StandsFor
  cases op <;> simp [Operation.request, Operation.method, Operation.body, Operation.document?]

/-! ### What an operation makes of an exchange -/

section Exchanges

variable [Web] {σ : Type}

/-- An operation that can be addressed passes a missing answer on and concludes from any other. -/
theorem perform_of_url {server : ServerAddress} {op : Operation} {url : Url}
    (hurl : op.url server = .ok url) (peer : Peer σ) (s : σ) :
    (perform peer server op s).2 = (send peer (op.request url) s).2 ∧
      (perform peer server op s).1.result
        = match (send peer (op.request url) s).1 with
          | .error fault => .error (.transport fault)
          | .ok answer => (conclude op answer).result := by
  rw [perform.eq_def]
  simp only [hurl]
  rcases send peer (op.request url) s with ⟨result, s'⟩
  cases result with
  | error fault => exact ⟨rfl, rfl⟩
  | ok answer => exact ⟨rfl, rfl⟩

/-- Only an answer that reports success leads to a result. -/
theorem isSuccess_of_conclude {op : Operation} {answer : Answer}
    (h : (conclude op answer).result.isOk = true) : answer.response.status.isSuccess = true := by
  unfold conclude at h
  by_contra hstatus
  rw [if_neg hstatus] at h
  cases h

/-- An operation that succeeds had an answer that reports success. -/
theorem answer_of_isOk {server : ServerAddress} {op : Operation} {url : Url}
    (hurl : op.url server = .ok url) {peer : Peer σ} {s : σ}
    (hok : (perform peer server op s).1.result.isOk = true) :
    ∃ answer, (send peer (op.request url) s).1 = .ok answer ∧
      answer.response.status.isSuccess = true := by
  rw [(perform_of_url hurl peer s).2] at hok
  cases hsend : (send peer (op.request url) s).1 with
  | error fault =>
      rw [hsend] at hok
      cases hok
  | ok answer =>
      rw [hsend] at hok
      exact ⟨answer, rfl, isSuccess_of_conclude hok⟩

/-- The transcript of an operation is an exchange of its request that starts with the peer's own
reaction to it, and the recorder does not change the outcome. -/
theorem exchange_transcript {server : ServerAddress} {op : Operation} {url : Url}
    (hurl : op.url server = .ok url) (peer : Peer σ) (s : σ) :
    Exchange redirectLimit (op.request url) (transcript peer server op s)
        (send peer (op.request url) s).1 ∧
      ((op.request url).url.isSendable = true →
        (transcript peer server op s).head? = some (op.request url, (peer (op.request url) s).1)) ∧
      (perform peer.noted server op (s, [])).1.result = (perform peer server op s).1.result := by
  obtain ⟨t, hrun, hexchange, hhead⟩ := send_noted peer (op.request url) s
  have ht : transcript peer server op s = t := by
    rw [transcript, (perform_of_url hurl peer.noted (s, [])).1, hrun]
  rw [ht]
  refine ⟨hexchange, hhead, ?_⟩
  rw [(perform_of_url hurl peer.noted (s, [])).2, (perform_of_url hurl peer s).2, hrun]

/-! ### The single request -/

/-- An operation whose address can be built sends the one request that it stands for, and
succeeds only if that request was answered with success, exactly when the request can be sent
and its answer does not redirect to another one. A redirect to a URL that no request can be
addressed to is none, and one to a URL of another scheme ends the exchange.

Whatever the peer answers, the first request is that one, each later one is the redirection of
the answer before it, there are at most ten of those, and success means that the last request
was answered with success. -/
theorem perform_single_iff {server : ServerAddress} {op : Operation} {url : Url}
    (hurl : op.url server = .ok url) (peer : Peer σ) (s : σ) :
    op.StandsFor (op.request url) ∧
    ((∃ delivery, transcript peer server op s = [(op.request url, delivery)] ∧
        ((perform peer server op s).1.result.isOk = true →
          ∃ response, delivery = .answered response ∧ response.status.isSuccess = true)) ↔
      (op.request url).url.isSendable = true ∧
        ∀ response next, (peer (op.request url) s).1 = .answered response →
          (op.request url).redirect? response ≠ some (.request next)) ∧
    (transcript peer server op s).IsChain Redirects ∧
    (transcript peer server op s).length ≤ 11 ∧
    (∀ p ∈ (transcript peer server op s).head?, p.1 = op.request url) ∧
    ((perform peer server op s).1.result.isOk = true →
      ∃ last response, (transcript peer server op s).getLast? = some (last, .answered response) ∧
        response.status.isSuccess = true) := by
  obtain ⟨hexchange, hhead, -⟩ := exchange_transcript hurl peer s
  -- Success always comes from the last entry, so one entry and success need nothing more.
  have hlast : (perform peer server op s).1.result.isOk = true →
      ∃ last response, (transcript peer server op s).getLast? = some (last, .answered response) ∧
        response.status.isSuccess = true := by
    intro hok
    obtain ⟨answer, hsend, hsuccess⟩ := answer_of_isOk hurl hok
    rw [hsend] at hexchange
    obtain ⟨last, hlast, -⟩ := hexchange.getLast?_of_ok
    exact ⟨last, answer.response, hlast, hsuccess⟩
  refine ⟨op.standsFor_request url, ?_, hexchange.isChain, hexchange.length_le,
    hexchange.head?_of_mem, hlast⟩
  constructor
  · -- An entry was recorded, so the request could be sent, and the entry is the peer's reaction.
    rintro ⟨delivery, hsingle, -⟩
    have hsendable : (op.request url).url.isSendable = true := by
      by_contra h
      have hnil := hexchange.eq_nil_iff.mpr (by simpa using h)
      rw [hsingle] at hnil
      cases hnil
    have hfirst := hhead hsendable
    rw [hsingle] at hfirst
    obtain rfl : delivery = (peer (op.request url) s).1 := by simpa using hfirst
    exact ⟨hsendable, (hexchange.eq_singleton_iff (hhead hsendable)).mp hsingle⟩
  · rintro ⟨hsendable, hstop⟩
    have hsingle := (hexchange.eq_singleton_iff (hhead hsendable)).mpr hstop
    refine ⟨_, hsingle, fun hok => ?_⟩
    -- The last entry is the only one.
    obtain ⟨last, response, hresponse, hsuccess⟩ := hlast hok
    rw [hsingle] at hresponse
    refine ⟨response, ?_, hsuccess⟩
    simpa using (Prod.mk.inj (Option.some.inj hresponse)).2

end Exchanges

section Local

attribute [local instance] Web.withoutTables

/-- The removal of a device from the usual server, which answers that it is done. -/
theorem perform_single_iff_removed :
    let server : ServerAddress := ⟨"localhost", 5300⟩
    let op : Operation := .remove "alice" "tok123"
    let url : Url := ⟨.http, [], [], .domain "localhost".toList, some 5300,
      ["v1", "users", "alice", "devices", "tok123"].map String.toList, none, none⟩
    let script : Script := ⟨[⟨.noContent, none, none, [], false⟩], []⟩
    op.url server = .ok url ∧
      ∃ delivery, transcript Peer.scripted server op script = [(op.request url, delivery)] := by
  have hurl : (Operation.remove "alice" "tok123").url ⟨"localhost", 5300⟩
      = .ok ⟨.http, [], [], .domain "localhost".toList, some 5300,
        ["v1", "users", "alice", "devices", "tok123"].map String.toList, none, none⟩ := rfl
  obtain ⟨-, hiff, -⟩ :=
    perform_single_iff hurl Peer.scripted ⟨[⟨.noContent, none, none, [], false⟩], []⟩
  obtain ⟨delivery, hsingle, -⟩ := hiff.mpr ⟨by decide, fun response next hresponse => by
    cases hresponse
    exact nofun⟩
  exact ⟨hurl, delivery, hsingle⟩

/-- One request is not all that is sent in general: a server that answers a removal with
`303 See Other` is asked for the other resource as well. -/
theorem not_forall_single : ¬ ∀ (server : ServerAddress) (op : Operation) (url : Url)
    (responses : List Response), op.method ≠ .get → op.url server = .ok url →
    ∃ delivery, transcript Peer.scripted server op ⟨responses, []⟩
        = [(op.request url, delivery)] ∧
      ((perform Peer.scripted server op ⟨responses, []⟩).1.result.isOk = true →
        ∃ response, delivery = .answered response ∧ response.status.isSuccess = true) := by
  intro h
  let request := (Operation.remove "alice" "tok123").request ⟨.http, [], [],
    .domain "localhost".toList, some 5300,
    ["v1", "users", "alice", "devices", "tok123"].map String.toList, none, none⟩
  let elsewhere : Url :=
    ⟨.http, [], [], .domain "localhost".toList, some 5300, ["elsewhere".toList], none, none⟩
  let moved : Response := ⟨⟨303⟩, none, some "/elsewhere", [], false⟩
  let script : Script := ⟨[moved, ⟨.ok, none, none, [], false⟩], []⟩
  have hurl : (Operation.remove "alice" "tok123").url ⟨"localhost", 5300⟩ = .ok request.url := rfl
  obtain ⟨delivery, hsingle, -⟩ :=
    h ⟨"localhost", 5300⟩ (.remove "alice" "tok123") request.url script.responses (by decide) hurl
  obtain ⟨hexchange, hhead, -⟩ := exchange_transcript hurl Peer.scripted script
  -- The answer redirects to another request, so the transcript cannot end with the first entry.
  have hnext : request.redirect? moved
      = some (.request ((request.withoutBody .get).movedTo elsewhere)) := by decide
  have hfirst := hhead (by decide)
  rw [hsingle] at hfirst
  obtain rfl : delivery = .answered moved := by cases hfirst; rfl
  exact (hexchange.eq_singleton_iff (hhead (by decide))).mp hsingle _ _ rfl hnext

end Local

end PushRegistry.Client
