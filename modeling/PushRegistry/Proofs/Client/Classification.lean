import PushRegistry.Proofs.Client.Answered
import PushRegistry.Proofs.Url.Addressing

/-!
# `PushRegistry.Proofs.Client.Classification`: what every failure means

An operation can end in a result or in one of six kinds of failure, and callers tell from the kind
how far it got. The main statement, `result_classified`, gives for each ending the exact condition
under which it happens, for every operation, every server and everything that a peer can do:

* the identifiers are looked at first, the user before the device token, then the base URL, and
  nothing is sent when one of them is at fault;
* otherwise the ending depends on the transcript alone, that is on the answer with which it ends,
  if there is one (`Transcript.final?`). Only operations that read a document look at the body of
  an answer that reports success.
-/

set_option autoImplicit false

namespace PushRegistry.Client

open PushRegistry.Http
open PushRegistry.ServerAddress (Accepts)

/-! ### Addresses -/

/-- The identifiers that an operation puts into its address, in the order in which they are looked
at. -/
def Operation.identifiers : Operation → List (Identifier × String)
  | .add device => [(.user, device.user), (.deviceToken, device.token)]
  | .remove user token => [(.user, user), (.deviceToken, token)]
  | .get user token => [(.user, user), (.deviceToken, token)]
  | .list user => [(.user, user)]
  | .notify _ => []
  | .status => []

/-- The first identifier of an operation that cannot be a segment. -/
def Operation.refused? (op : Operation) : Option (Identifier × String) :=
  op.identifiers.find? fun p => ¬ Accepts p.2

/-- The segments of the address. -/
def Operation.segments : Operation → List String
  | .add device => ["v1", "users", device.user, "devices", device.token]
  | .remove user token => ["v1", "users", user, "devices", token]
  | .get user token => ["v1", "users", user, "devices", token]
  | .list user => ["v1", "users", user, "devices"]
  | .notify _ => ["v1", "notify"]
  | .status => ["status"]

/-- The fault of an identifier that cannot be a segment. -/
def refusal (p : Identifier × String) : AddressFault :=
  if p.2 = "" then .missing p.1 else .dotSegment p.1

theorem require_of_not_accepts {field : Identifier} {value : String} (h : ¬ Accepts value) :
    ServerAddress.require field value = .error (refusal (field, value)) := by
  unfold ServerAddress.require refusal
  by_cases hempty : value = ""
  · rw [if_pos hempty, if_pos hempty]
  · have hdot : value = "." ∨ value = ".." := by
      by_contra hdot
      exact h ⟨hempty, not_or.mp hdot⟩
    rw [if_neg hempty, if_pos hdot, if_neg hempty]

/-- Identifiers are looked at one after the other, and the first one that is refused decides. -/
theorem forM_require (ps : List (Identifier × String)) :
    (forM ps fun p => ServerAddress.require p.1 p.2)
      = match ps.find? fun p => ¬ Accepts p.2 with
        | some p => .error (refusal p)
        | none => .ok () := by
  induction ps with
  | nil => rfl
  | cons p rest ih =>
      by_cases h : Accepts p.2
      · rw [List.forM_cons, ServerAddress.require_eq_ok_iff.mpr h,
          List.find?_cons_of_neg (by simpa using h), ← ih]
        rfl
      · rw [List.forM_cons, require_of_not_accepts h, List.find?_cons_of_pos (by simpa using h)]
        rfl

/-- The identifiers of an operation are looked at, then its segments are appended to the base
URL. -/
theorem url_eq_bind [Url.Idna] (op : Operation) (server : ServerAddress) :
    op.url server
      = ((forM op.identifiers fun p => ServerAddress.require p.1 p.2) >>= fun _ =>
          server.endpoint op.segments) := by
  cases op with
  | add device =>
      simp only [Operation.identifiers, List.forM_cons, List.forM_nil, bind_assoc, pure_bind]
      rfl
  | remove user token =>
      simp only [Operation.identifiers, List.forM_cons, List.forM_nil, bind_assoc, pure_bind]
      rfl
  | get user token =>
      simp only [Operation.identifiers, List.forM_cons, List.forM_nil, bind_assoc, pure_bind]
      rfl
  | list user =>
      simp only [Operation.identifiers, List.forM_cons, List.forM_nil, bind_assoc, pure_bind]
      rfl
  | notify n =>
      rw [Operation.identifiers, List.forM_nil, pure_bind]
      rfl
  | status =>
      rw [Operation.identifiers, List.forM_nil, pure_bind]
      rfl

/-- The address of an operation fails at its first identifier that is refused, or else at the base
URL. -/
theorem url_eq [Url.Idna] (op : Operation) (server : ServerAddress) :
    op.url server = match op.refused?, server.baseUrl with
      | some p, _ => .error (refusal p)
      | none, .error fault => .error (.invalidUrl fault)
      | none, .ok base => .ok { base with
          path := Url.Path.extend (Url.Path.dropTrailingEmpty base.path)
            (op.segments.map String.toList) } := by
  rw [url_eq_bind, forM_require, ← Operation.refused?]
  unfold ServerAddress.endpoint
  cases op.refused? with
  | some p => rfl
  | none =>
      cases server.baseUrl with
      | error fault => rfl
      | ok base => rfl

/-- An identifier that is refused is empty or a dot segment. -/
theorem value_of_refused {op : Operation} {field : Identifier} {value : String}
    (h : op.refused? = some (field, value)) : value = "" ∨ value = "." ∨ value = ".." := by
  have hvalue : ¬ Accepts value := by simpa using List.find?_some h
  rw [Accepts] at hvalue
  tauto

/-- Which address faults an operation has: an identifier decides before the base URL does. -/
theorem url_eq_error_iff [Url.Idna] (op : Operation) (server : ServerAddress) :
    (∀ field, op.url server = .error (.missing field) ↔ op.refused? = some (field, "")) ∧
    (∀ field, op.url server = .error (.dotSegment field) ↔
      op.refused? = some (field, ".") ∨ op.refused? = some (field, "..")) ∧
    (∀ fault, op.url server = .error (.invalidUrl fault) ↔
      op.refused? = none ∧ server.baseUrl = .error fault) := by
  rw [url_eq]
  cases hrefused : op.refused? with
  | some p =>
      obtain ⟨field, value⟩ := p
      obtain rfl | rfl | rfl := value_of_refused hrefused
      · simp [refusal]
      · simp [refusal]
      · simp [refusal]
  | none =>
      cases server.baseUrl with
      | error fault => simp
      | ok base => simp

/-- An operation has an address exactly if no identifier is refused and the base URL is one. -/
theorem isOk_url_iff [Url.Idna] (op : Operation) (server : ServerAddress) :
    (op.url server).isOk = true ↔ op.refused? = none ∧ server.baseUrl.isOk = true := by
  rw [url_eq]
  cases op.refused? with
  | some p => simp [Except.isOk, Except.toBool]
  | none =>
      cases server.baseUrl with
      | error fault => simp [Except.isOk, Except.toBool]
      | ok base => simp [Except.isOk, Except.toBool]

/-! ### Answers -/

/-- How an operation reads the body of an answer that reports success, if it does so at all. -/
def Operation.decoder? : (op : Operation) → Option (List UInt8 → Except Json.Fault op.Result)
  | .add _ => some Device.decode
  | .remove _ _ => none
  | .get _ _ => some Device.decode
  | .list _ => some Device.decodeList
  | .notify _ => none
  | .status => some ServerStatus.decode

theorem read_of_decoder?_eq_some {op : Operation}
    {decode : List UInt8 → Except Json.Fault op.Result} (h : op.decoder? = some decode)
    (answer : Answer) : op.read answer = Operation.readBody answer decode := by
  cases op with
  | add device => cases h; rfl
  | remove user token => cases h
  | get user token => cases h; rfl
  | list user => cases h; rfl
  | notify n => cases h
  | status => cases h; rfl

/-- An operation that reads no body is content with every answer, and can return one thing only. -/
theorem read_of_decoder?_eq_none {op : Operation} (h : op.decoder? = none) (answer : Answer) :
    ∃ value, op.read answer = .ok value ∧ ∀ other, other = value := by
  cases op with
  | add device => cases h
  | remove user token => exact ⟨(), rfl, fun _ => rfl⟩
  | get user token => cases h
  | list user => cases h
  | notify n => exact ⟨(), rfl, fun _ => rfl⟩
  | status => cases h

/-- What becomes of a body: it can be cut short, or not be the document that was expected. -/
theorem readBody_cases {α : Type} (answer : Answer) (decode : List UInt8 → Except Json.Fault α) :
    (answer.response.truncated = true ∧ Operation.readBody answer decode
        = .error (.transport (.truncatedBody answer.url))) ∨
    (answer.response.truncated = false ∧ Operation.readBody answer decode
        = (decode answer.response.body).mapError .decode) := by
  unfold Operation.readBody
  cases answer.response.truncated with
  | true => exact .inl ⟨rfl, rfl⟩
  | false => exact .inr ⟨rfl, rfl⟩

/-- What can come of an answer: it reports a failure, or its body is not read, or the body is cut
short, or the body decides. -/
theorem conclude_cases [Web] (op : Operation) (answer : Answer) :
    (answer.response.status.isSuccess = false ∧
      (conclude op answer).result = .error (.remote (Remote.ofResponse answer.response))) ∨
    (answer.response.status.isSuccess = true ∧ op.decoder? = none ∧
      ∃ value, (conclude op answer).result = .ok value ∧ ∀ other, other = value) ∨
    (answer.response.status.isSuccess = true ∧ ∃ decode, op.decoder? = some decode ∧
      ((answer.response.truncated = true ∧
          (conclude op answer).result = .error (.transport (.truncatedBody answer.url))) ∨
        (answer.response.truncated = false ∧
          (conclude op answer).result = (decode answer.response.body).mapError .decode))) := by
  cases hsuccess : answer.response.status.isSuccess with
  | false => exact .inl ⟨rfl, result_of_not_isSuccess hsuccess⟩
  | true =>
      rw [result_of_isSuccess hsuccess]
      cases hdecoder : op.decoder? with
      | none => exact .inr (.inl ⟨rfl, rfl, read_of_decoder?_eq_none hdecoder answer⟩)
      | some decode =>
          rw [read_of_decoder?_eq_some hdecoder answer]
          exact .inr (.inr ⟨rfl, decode, rfl, readBody_cases answer decode⟩)

/-- Which answers lead to which ending. None of them leads to an address fault. -/
theorem conclude_result_iff [Web] (op : Operation) (answer : Answer) :
    (∀ fault, (conclude op answer).result ≠ .error (.address fault)) ∧
    ((∃ fault, (conclude op answer).result = .error (.transport fault)) ↔
      answer.response.status.isSuccess = true ∧ op.decoder?.isSome = true ∧
        answer.response.truncated = true) ∧
    (∀ report, (conclude op answer).result = .error (.remote report) ↔
      answer.response.status.isSuccess = false ∧ report = Remote.ofResponse answer.response) ∧
    (∀ fault, (conclude op answer).result = .error (.decode fault) ↔
      answer.response.status.isSuccess = true ∧ ∃ decode, op.decoder? = some decode ∧
        answer.response.truncated = false ∧ decode answer.response.body = .error fault) ∧
    (∀ value, (conclude op answer).result = .ok value ↔
      answer.response.status.isSuccess = true ∧ ∀ decode, op.decoder? = some decode →
        answer.response.truncated = false ∧ decode answer.response.body = .ok value) := by
  rcases conclude_cases op answer with ⟨hstatus, hresult⟩ |
    ⟨hstatus, hdecoder, value, hresult, hunique⟩ | ⟨hstatus, decode, hdecoder,
      ⟨hbody, hresult⟩ | ⟨hbody, hresult⟩⟩
  · simp [hstatus, hresult, @eq_comm _ (Remote.ofResponse answer.response)]
  · simpa [hstatus, hdecoder, hresult] using fun other => (hunique other).symm
  · simp [hstatus, hdecoder, hbody, hresult]
  · rw [hresult]
    cases hdecode : decode answer.response.body with
    | error fault => simp [hstatus, hdecoder, hbody, hdecode, Except.mapError]
    | ok value => simp [hstatus, hdecoder, hbody, hdecode, Except.mapError]

/-! ### Endings -/

section Endings

variable [Web] {σ : Type}

section Url

variable {server : ServerAddress} {op : Operation}

/-- An operation without an address touches nothing. -/
theorem perform_of_url_error {fault : AddressFault} (hurl : op.url server = .error fault)
    (peer : Peer σ) (s : σ) :
    (perform peer server op s).1.result = .error (.address fault) ∧
      (perform peer server op s).2 = s ∧ transcript peer server op s = [] := by
  have hperform : ∀ {τ : Type} (peer : Peer τ) (s : τ),
      perform peer server op s = (⟨.error (.address fault), []⟩, s) := by
    intro τ peer s
    rw [perform.eq_def, hurl]
  rw [transcript, hperform, hperform]
  exact ⟨rfl, rfl, rfl⟩

/-- An operation that has an address ends as its transcript does. -/
theorem result_of_url {url : Url} (hurl : op.url server = .ok url) (peer : Peer σ) (s : σ) :
    match Transcript.final? (transcript peer server op s) with
    | none => ∃ fault, (perform peer server op s).1.result = .error (.transport fault)
    | some answer => (perform peer server op s).1.result = (conclude op answer).result := by
  obtain ⟨hexchange, -, -⟩ := exchange_transcript hurl peer s
  rw [hexchange.final?_eq, (perform_of_url hurl peer s).2]
  cases (send peer (op.request url) s).1 with
  | error fault => exact ⟨fault, rfl⟩
  | ok answer => rfl

/-- The exchange with a peer that has one response for everything ends with this response, if it
names no location. -/
theorem final?_scripted {url : Url} (hurl : op.url server = .ok url)
    (hsendable : (op.request url).url.isSendable = true) (response : Response)
    (hlocation : response.location = none) :
    Transcript.final? (transcript Peer.scripted server op ⟨[response], []⟩)
      = some ⟨response.delivered (op.request url), (op.request url).url⟩ := by
  have hnext : (op.request url).redirect? (response.delivered (op.request url)) = none :=
    redirect?_of_location_eq_none ((location_delivered _ _).trans hlocation)
  rw [(exchange_transcript hurl Peer.scripted _).1.final?_eq, send_of_isSendable hsendable,
    sendWith_final rfl hnext]
  rfl

end Url

/-- An address fault is the ending of an operation exactly if it is one of its address. -/
theorem result_eq_address_iff (peer : Peer σ) (server : ServerAddress) (op : Operation) (s : σ)
    (fault : AddressFault) :
    (perform peer server op s).1.result = .error (.address fault)
      ↔ op.url server = .error fault := by
  cases hurl : op.url server with
  | error fault' =>
      rw [(perform_of_url_error hurl peer s).1, Except.error.injEq, Failure.address.injEq,
        Except.error.injEq]
  | ok url =>
      have hresult := result_of_url hurl peer s
      cases hfinal : Transcript.final? (transcript peer server op s) with
      | none =>
          rw [hfinal] at hresult
          obtain ⟨fault', hresult⟩ := hresult
          simp [hresult]
      | some answer =>
          rw [hfinal] at hresult
          simp [hresult, (conclude_result_iff op answer).1 fault]

/-- A failure of transport is the ending of an operation that has an address exactly if its
transcript ends without an answer, or with one that leads to such a failure. -/
theorem result_eq_transport_iff (peer : Peer σ) (server : ServerAddress) (op : Operation) (s : σ) :
    (∃ fault, (perform peer server op s).1.result = .error (.transport fault)) ↔
      (op.url server).isOk = true ∧
        (Transcript.final? (transcript peer server op s) = none ∨
          ∃ answer, Transcript.final? (transcript peer server op s) = some answer ∧
            ∃ fault, (conclude op answer).result = .error (.transport fault)) := by
  cases hurl : op.url server with
  | error fault => simp [(perform_of_url_error hurl peer s).1, Except.isOk, Except.toBool]
  | ok url =>
      have hresult := result_of_url hurl peer s
      cases hfinal : Transcript.final? (transcript peer server op s) with
      | none =>
          rw [hfinal] at hresult
          simpa [Except.isOk, Except.toBool] using hresult
      | some answer =>
          rw [hfinal] at hresult
          simp [hresult, Except.isOk, Except.toBool]

/-- Any other ending is one that the answer leads to with which the transcript ends. -/
theorem result_iff_of_final (op : Operation) (ending : Except Failure op.Result → Prop)
    (haddress : ∀ fault, ¬ ending (.error (.address fault)))
    (htransport : ∀ fault, ¬ ending (.error (.transport fault))) (peer : Peer σ)
    (server : ServerAddress) (s : σ) :
    ending (perform peer server op s).1.result ↔
      ∃ answer, Transcript.final? (transcript peer server op s) = some answer ∧
        ending (conclude op answer).result := by
  cases hurl : op.url server with
  | error fault =>
      obtain ⟨hresult, -, hsent⟩ := perform_of_url_error hurl peer s
      have hfinal : Transcript.final? (transcript peer server op s) = none := by rw [hsent]; rfl
      simp [hresult, hfinal, haddress]
  | ok url =>
      have hresult := result_of_url hurl peer s
      cases hfinal : Transcript.final? (transcript peer server op s) with
      | none =>
          rw [hfinal] at hresult
          obtain ⟨fault, hresult⟩ := hresult
          simp [hresult, htransport]
      | some answer =>
          rw [hfinal] at hresult
          simp [hresult]

/-- The ending of an operation, for every operation, every server and every peer.

* An identifier that is empty or a dot segment is named, the user before the device token and
  before anything that is wrong with the server; otherwise the URL is at fault exactly if the base
  URL cannot be read. Nothing is sent in these cases.
* In all others there is the answer with which the transcript ends, or none. Without an answer the
  failure is one of transport. An answer that does not report success is a failure with its status,
  whatever is left of its body. An answer that reports success is enough for an operation that reads
  no body; for the others a body that was cut short is a failure of transport, and a whole one is
  what its decoder says. -/
theorem result_classified (peer : Peer σ) (server : ServerAddress) (op : Operation) (s : σ) :
    let result := (perform peer server op s).1.result
    let sent := transcript peer server op s
    let final := Transcript.final? sent
    (∀ field, result = .error (.address (.missing field)) ↔ op.refused? = some (field, "")) ∧
    (∀ field, result = .error (.address (.dotSegment field)) ↔
      op.refused? = some (field, ".") ∨ op.refused? = some (field, "..")) ∧
    (∀ fault, result = .error (.address (.invalidUrl fault)) ↔
      op.refused? = none ∧ server.baseUrl = .error fault) ∧
    ((op.refused?.isSome = true ∨ server.baseUrl.isOk = false) →
      sent = [] ∧ (perform peer server op s).2 = s) ∧
    ((∃ fault, result = .error (.transport fault)) ↔
      op.refused? = none ∧ server.baseUrl.isOk = true ∧
        (final = none ∨ ∃ answer, final = some answer ∧ answer.response.status.isSuccess = true ∧
          op.decoder?.isSome = true ∧ answer.response.truncated = true)) ∧
    (∀ report, result = .error (.remote report) ↔
      ∃ answer, final = some answer ∧ answer.response.status.isSuccess = false ∧
        report = Remote.ofResponse answer.response ∧ report.status = answer.response.status) ∧
    (∀ fault, result = .error (.decode fault) ↔
      ∃ answer, final = some answer ∧ answer.response.status.isSuccess = true ∧
        ∃ decode, op.decoder? = some decode ∧ answer.response.truncated = false ∧
          decode answer.response.body = .error fault) ∧
    (∀ value, result = .ok value ↔
      ∃ answer, final = some answer ∧ answer.response.status.isSuccess = true ∧
        ∀ decode, op.decoder? = some decode → answer.response.truncated = false ∧
          decode answer.response.body = .ok value) := by
  intro result sent final
  obtain ⟨hmissing, hdot, hinvalid⟩ := url_eq_error_iff op server
  have haddress := result_eq_address_iff peer server op s
  refine ⟨?_, ?_, ?_, ?_, ?_, ?_, ?_, ?_⟩
  · intro field
    rw [haddress, hmissing]
  · intro field
    rw [haddress, hdot]
  · intro fault
    rw [haddress, hinvalid]
  · intro hfault
    cases hurl : op.url server with
    | error fault =>
        obtain ⟨-, hstate, hsent⟩ := perform_of_url_error hurl peer s
        exact ⟨hsent, hstate⟩
    | ok url =>
        -- An address that could be built has neither fault.
        have hok := (isOk_url_iff op server).mp (by rw [hurl]; rfl)
        simp [hok] at hfault
  · rw [result_eq_transport_iff, isOk_url_iff, and_assoc]
    simp only [(conclude_result_iff op _).2.1]
    exact Iff.rfl
  · intro report
    have hiff := result_iff_of_final op (· = .error (.remote report)) (by simp)
      (by simp) peer server s
    simp only [(conclude_result_iff op _).2.2.1] at hiff
    rw [hiff]
    refine exists_congr fun answer => and_congr_right fun _ => and_congr_right fun _ => ?_
    exact ⟨fun h => ⟨h, h ▸ status_ofResponse _⟩, And.left⟩
  · intro fault
    have hiff := result_iff_of_final op (· = .error (.decode fault)) (by simp)
      (by simp) peer server s
    simp only [(conclude_result_iff op _).2.2.2.1] at hiff
    exact hiff
  · intro value
    have hiff := result_iff_of_final op (· = .ok value) (by simp)
      (by simp) peer server s
    simp only [(conclude_result_iff op _).2.2.2.2] at hiff
    exact hiff

end Endings

section Local

attribute [local instance] Web.withoutTables

/-- A device without a user and with a dot for a token, at a server without a host: the user is
named, and nothing is sent. At a server that answers with success and a body that is cut short, a
registration is a failure of transport and a removal is done. -/
theorem result_classified_refused_or_cut :
    let nowhere : ServerAddress := ⟨"", 5300⟩
    let server : ServerAddress := ⟨"localhost", 5300⟩
    let get : Operation := .get "" "."
    let add : Operation := .add ⟨"alice", "tok123", .ios⟩
    let remove : Operation := .remove "alice" "tok123"
    let cut : Script := ⟨[⟨.ok, none, none, [], true⟩], []⟩
    (get.refused?.isSome = true ∨ nowhere.baseUrl.isOk = false) ∧
      (perform Peer.scripted nowhere get cut).1.result = .error (.address (.missing .user)) ∧
      transcript Peer.scripted nowhere get cut = [] ∧
      (∃ fault, (perform Peer.scripted server add cut).1.result = .error (.transport fault)) ∧
      (perform Peer.scripted server remove cut).1.result = .ok () := by
  -- Registration and removal go to the same URL.
  have haddUrl : (Operation.add ⟨"alice", "tok123", .ios⟩).url ⟨"localhost", 5300⟩
      = .ok ⟨.http, [], [], .domain "localhost".toList, some 5300,
        ["v1", "users", "alice", "devices", "tok123"].map String.toList, none, none⟩ := rfl
  have hremoveUrl : (Operation.remove "alice" "tok123").url ⟨"localhost", 5300⟩
      = .ok ⟨.http, [], [], .domain "localhost".toList, some 5300,
        ["v1", "users", "alice", "devices", "tok123"].map String.toList, none, none⟩ := rfl
  have hbase : (⟨"localhost", 5300⟩ : ServerAddress).baseUrl.isOk = true := rfl
  intro nowhere server get add remove cut
  have hrefused : get.refused? = some (.user, "") := by decide
  have hfault : get.refused?.isSome = true ∨ nowhere.baseUrl.isOk = false :=
    .inl (by rw [hrefused]; rfl)
  obtain ⟨hmissing, -, -, hnothing, -⟩ := result_classified Peer.scripted nowhere get cut
  -- The one answer ends both exchanges.
  have hadd := final?_scripted haddUrl (by decide) ⟨.ok, none, none, [], true⟩ rfl
  have hremove := final?_scripted hremoveUrl (by decide) ⟨.ok, none, none, [], true⟩ rfl
  obtain ⟨-, -, -, -, htransport, -⟩ := result_classified Peer.scripted server add cut
  obtain ⟨-, -, -, -, -, -, -, hok⟩ := result_classified Peer.scripted server remove cut
  refine ⟨hfault, (hmissing .user).mpr hrefused, (hnothing hfault).1, ?_, ?_⟩
  · exact htransport.mpr ⟨rfl, hbase, .inr ⟨_, hadd, rfl, rfl, rfl⟩⟩
  · exact (hok ()).mpr ⟨_, hremove, rfl, nofun⟩

end Local

end PushRegistry.Client
