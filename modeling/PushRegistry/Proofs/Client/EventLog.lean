import PushRegistry.Proofs.Client.Classification

/-!
# `PushRegistry.Proofs.Client.EventLog`: what the log of an operation tells

Whoever reads the log of an operation can tell from it how the operation ended. The log is a short
story (`Operation.story`): the announcement, the answer with which the exchange ended if there was
one, and what the client made of it. `log_of_url` says that no operation leaves another log behind,
and `log_tells_ending` draws the conclusions: no operation reports success after a failure, and no
failure that a server reported goes without its warning.

An operation without an address says nothing at all. One whose address can be built but not be put
into a request is announced nevertheless, although nothing can be sent (`not_forall_silent`).
-/

set_option autoImplicit false

namespace PushRegistry.Client

open PushRegistry.Http

/-! ### The story -/

/-- The warnings about an answer: none, unless it led to a failure that the server reported. -/
def Operation.warnings {op : Operation} (answer : Answer) :
    Except Failure op.Result → List Event
  | .error (.remote report) =>
    (if answer.response.truncated then
      [.errorBodyUnreadable answer.response.status (.truncatedBody answer.url)]
    else []) ++ [.requestFailed report]
  | _ => []

/-- What an operation says about its success. -/
def Operation.confirmation (op : Operation) (answer : Answer) :
    Except Failure op.Result → List Event
  | .ok value => op.conclusion answer.response.status value
  | .error _ => []

/-- The log of an operation with an address, from the answer with which its exchange ended and from
its result. -/
def Operation.story (op : Operation) (url : Url) (final : Option Answer)
    (result : Except Failure op.Result) : List Event :=
  op.announcement url :: match final with
    | none => []
    | some answer => .answered answer.response.status answer.url
        :: (Operation.warnings answer result ++ op.confirmation answer result)

section Concluding

variable {op : Operation} {answer : Answer}

/-- Whatever is wrong with the body of an answer, it is not a failure that the server reported. -/
theorem readBody_ne_remote {α : Type} (decode : List UInt8 → Except Json.Fault α)
    (report : Remote) : Operation.readBody answer decode ≠ .error (.remote report) := by
  rcases readBody_cases answer decode with ⟨-, h⟩ | ⟨-, h⟩
  · rw [h]
    exact nofun
  · rw [h]
    cases decode answer.response.body with
    | ok value => exact nofun
    | error fault => exact nofun

theorem read_ne_remote (report : Remote) : op.read answer ≠ .error (.remote report) := by
  cases hdecoder : op.decoder? with
  | none =>
      obtain ⟨value, hvalue, -⟩ := read_of_decoder?_eq_none hdecoder answer
      rw [hvalue]
      exact nofun
  | some decode =>
      rw [read_of_decoder?_eq_some hdecoder answer]
      exact readBody_ne_remote decode report

section Web

variable [Web]

/-- An answer that does not report success is followed by the warnings about it. -/
theorem log_of_not_isSuccess (h : answer.response.status.isSuccess = false) :
    (conclude op answer).log
      = .answered answer.response.status answer.url :: failureEvents answer := by
  unfold conclude
  rw [if_neg (by rw [h]; exact Bool.false_ne_true)]

/-- An answer that reports success is followed by what was done, if its body can be read. -/
theorem log_of_isSuccess (h : answer.response.status.isSuccess = true) :
    (conclude op answer).log = .answered answer.response.status answer.url
      :: match op.read answer with
        | .ok value => op.conclusion answer.response.status value
        | .error _ => [] := by
  unfold conclude
  rw [if_pos h]
  cases op.read answer with
  | ok value => rfl
  | error failure => rfl

/-- What a client concludes from an answer begins with the answer itself. -/
theorem log_conclude (op : Operation) (answer : Answer) :
    (conclude op answer).log = .answered answer.response.status answer.url
      :: (Operation.warnings answer (conclude op answer).result
        ++ op.confirmation answer (conclude op answer).result) := by
  cases hsuccess : answer.response.status.isSuccess with
  | false =>
      rw [log_of_not_isSuccess hsuccess, result_of_not_isSuccess hsuccess]
      exact congrArg _ (List.append_nil _).symm
  | true =>
      rw [log_of_isSuccess hsuccess, result_of_isSuccess hsuccess]
      cases hread : op.read answer with
      | ok value => rfl
      | error failure =>
          -- The one failure with events of its own does not come from reading a body.
          cases failure with
          | remote report => exact absurd hread (read_ne_remote report)
          | address fault => rfl
          | transport fault => rfl
          | decode fault => rfl

end Web

end Concluding

/-- The log of an operation with an address is its story. -/
theorem log_of_url [Web] {σ : Type} {server : ServerAddress} {op : Operation} {url : Url}
    (hurl : op.url server = .ok url) (peer : Peer σ) (s : σ) :
    (perform peer server op s).1.log
      = op.story url (Transcript.final? (transcript peer server op s))
          (perform peer server op s).1.result := by
  obtain ⟨hexchange, -, -⟩ := exchange_transcript hurl peer s
  rw [hexchange.final?_eq, perform.eq_def]
  simp only [hurl]
  rcases send peer (op.request url) s with ⟨result, s'⟩
  cases result with
  | error fault => rfl
  | ok answer => exact congrArg (op.announcement url :: ·) (log_conclude op answer)

/-- The log of an operation without an address is empty. -/
theorem log_of_url_error [Web] {σ : Type} {server : ServerAddress} {op : Operation}
    {fault : AddressFault} (hurl : op.url server = .error fault) (peer : Peer σ) (s : σ) :
    (perform peer server op s).1.log = [] := by
  rw [perform.eq_def, hurl]

/-! ### Reading the story -/

/-- Whether an operation asks for a change. -/
def Operation.changes : Operation → Bool
  | .add _ => true
  | .remove _ _ => true
  | .notify _ => true
  | _ => false

/-- What the last event after a success says, given the status of the answer. -/
def Operation.Confirms (status : Status) : (op : Operation) → op.Result → Event → Prop
  | .add _, stored, last =>
    ∃ created, last = .registered stored created ∧ (created = true ↔ status.code = 201)
  | .remove user _, _, last => last = .removed user
  | .get _ _, _, last => ∃ url, last = .answered status url
  | .list user, devices, last => last = .fetchedDevices user devices.length
  | .notify n, _, last => last = .acceptedNotification n.users.length n.devices.length
  | .status, _, last => ∃ url, last = .answered status url

theorem level_announcement (op : Operation) (url : Url) :
    (op.announcement url).level = .debug := by
  cases op <;> rfl

theorem message_announcement_ne (op : Operation) (url : Url) :
    (op.announcement url).message ≠ "Received postal response" := by
  cases op <;> simp [Operation.announcement, Event.message]

/-- The last event after a success confirms it. -/
theorem conclusion_confirms (op : Operation) (status : Status) (value : op.Result) (url : Url) :
    ∃ last, (Event.answered status url :: op.conclusion status value).getLast? = some last ∧
      op.Confirms status value last := by
  cases op with
  | add device =>
      have hcreated : status = Status.created ↔ status.code = 201 :=
        ⟨fun h => h ▸ rfl, fun h => congrArg Status.mk h⟩
      exact ⟨_, rfl, _, rfl, by rw [decide_eq_true_iff, hcreated]⟩
  | remove user token => exact ⟨_, rfl, rfl⟩
  | get user token => exact ⟨_, rfl, url, rfl⟩
  | list user => exact ⟨_, rfl, rfl⟩
  | notify n => exact ⟨_, rfl, rfl⟩
  | status => exact ⟨_, rfl, url, rfl⟩

/-- An operation that asks for a change says in one event that it was made. -/
theorem conclusion_of_changes {op : Operation} (h : op.changes = true) (status : Status)
    (value : op.Result) : ∃ e, op.conclusion status value = [e] ∧ e.level = .info := by
  cases op with
  | add device => exact ⟨_, rfl, rfl⟩
  | remove user token => exact ⟨_, rfl, rfl⟩
  | get user token => cases h
  | list user => cases h
  | notify n => exact ⟨_, rfl, rfl⟩
  | status => cases h

/-- The other operations say what they fetched at level debug, if at all. -/
theorem level_of_mem_conclusion {op : Operation} (h : op.changes = false) {status : Status}
    {value : op.Result} {e : Event} (he : e ∈ op.conclusion status value) : e.level = .debug := by
  cases op with
  | add device => cases h
  | remove user token => cases h
  | get user token => cases he
  | list user =>
      obtain rfl := List.mem_singleton.mp he
      rfl
  | notify n => cases h
  | status => cases he

theorem message_ne_of_mem_conclusion {op : Operation} {status : Status} {value : op.Result}
    {e : Event} (he : e ∈ op.conclusion status value) : e.message ≠ "Received postal response" := by
  cases op <;> simp_all [Operation.conclusion, Event.message]

theorem level_ne_warn_of_mem_conclusion {op : Operation} {status : Status} {value : op.Result}
    {e : Event} (he : e ∈ op.conclusion status value) : e.level ≠ .warn := by
  cases hchanges : op.changes with
  | true =>
      obtain ⟨e', hconclusion, hlevel⟩ := conclusion_of_changes hchanges status value
      rw [hconclusion, List.mem_singleton] at he
      rw [he, hlevel]
      exact nofun
  | false =>
      rw [level_of_mem_conclusion hchanges he]
      exact nofun

section Story

variable {op : Operation} {answer : Answer} {result : Except Failure op.Result} {e : Event}

theorem of_mem_warnings (he : e ∈ Operation.warnings answer result) :
    e.level = .warn ∧ e.message ≠ "Received postal response" := by
  match result with
  | .error (.remote report) =>
      obtain he | he := List.mem_append.mp he
      · split at he
        · obtain rfl := List.mem_singleton.mp he
          exact ⟨rfl, by simp [Event.message]⟩
        · cases he
      · obtain rfl := List.mem_singleton.mp he
        exact ⟨rfl, by simp [Event.message]⟩
  | .ok value => cases he
  | .error (.address _) => cases he
  | .error (.transport _) => cases he
  | .error (.decode _) => cases he

theorem warnings_of_ne_remote (h : ∀ report, result ≠ .error (.remote report)) :
    Operation.warnings answer result = [] := by
  match result with
  | .error (.remote report) => exact absurd rfl (h report)
  | .ok value => rfl
  | .error (.address _) => rfl
  | .error (.transport _) => rfl
  | .error (.decode _) => rfl

theorem of_mem_confirmation (he : e ∈ op.confirmation answer result) :
    e.level ≠ .warn ∧ e.message ≠ "Received postal response" := by
  cases result with
  | ok value => exact ⟨level_ne_warn_of_mem_conclusion he, message_ne_of_mem_conclusion he⟩
  | error failure => cases he

/-- The story tells of one answer, the one with which the exchange ended. -/
theorem filter_story_received (url : Url) (final : Option Answer) :
    (op.story url final result).filter (·.message = "Received postal response")
      = final.toList.map fun answer => .answered answer.response.status answer.url := by
  have hannounced := message_announcement_ne op url
  cases final with
  | none => simp [Operation.story, hannounced]
  | some answer =>
      have hrest : (Operation.warnings answer result ++ op.confirmation answer result).filter
          (·.message = "Received postal response") = [] := by
        simp only [List.filter_eq_nil_iff, decide_eq_true_iff]
        intro e he
        rcases List.mem_append.mp he with he | he
        · exact (of_mem_warnings he).2
        · exact (of_mem_confirmation he).2
      rw [Operation.story, List.filter_cons_of_neg (by simpa using hannounced),
        List.filter_cons_of_pos rfl, hrest]
      rfl

/-- The warnings in the story of an answer are those about it. -/
theorem filter_story_warn (url : Url) :
    (op.story url (some answer) result).filter (·.level = .warn)
      = Operation.warnings answer result := by
  have hannounced : (op.announcement url).level ≠ .warn := by
    rw [level_announcement]
    decide
  rw [Operation.story, List.filter_cons_of_neg (by simpa using hannounced),
    List.filter_cons_of_neg (by simp [Event.level]), List.filter_append, List.filter_eq_self.mpr,
    List.filter_eq_nil_iff.mpr, List.append_nil]
  · intro e he
    simpa using (of_mem_confirmation he).1
  · intro e he
    simpa using (of_mem_warnings he).1

/-- An event at level info stands in the story exactly if a change was made, at its end. -/
theorem filter_story_info (url : Url) :
    (op.story url (some answer) result).filter (·.level = .info)
      = if op.changes && result.isOk then (op.story url (some answer) result).getLast?.toList
        else [] := by
  have hannounced : (op.announcement url).level ≠ .info := by
    rw [level_announcement]
    decide
  have hwarnings : (Operation.warnings answer result).filter (·.level = .info) = [] := by
    simp only [List.filter_eq_nil_iff, decide_eq_true_iff]
    intro e he
    rw [(of_mem_warnings he).1]
    decide
  rw [Operation.story, List.filter_cons_of_neg (by simpa using hannounced),
    List.filter_cons_of_neg (by simp [Event.level]), List.filter_append, hwarnings, List.nil_append]
  cases result with
  | error failure => simp [Operation.confirmation, Except.isOk, Except.toBool]
  | ok value =>
      cases hchanges : op.changes with
      | true =>
          obtain ⟨e, hconclusion, hlevel⟩ :=
            conclusion_of_changes hchanges answer.response.status value
          simp [Operation.confirmation, Operation.warnings, hconclusion, hlevel, Except.isOk,
            Except.toBool]
      | false =>
          simp only [Operation.confirmation, Bool.false_and, Bool.false_eq_true, if_false,
            List.filter_eq_nil_iff, decide_eq_true_iff]
          intro e he
          rw [level_of_mem_conclusion hchanges he]
          decide

end Story

/-! ### What the log tells -/

/-- The log of an operation tells its ending, for every operation, every server and every peer.

* An operation without an address says nothing. Any other begins with its announcement, and leaves
  it at that if its URL cannot be put into a request.
* There is one event about an answer if the exchange ended with one, however many redirects came
  before, and none otherwise.
* There are warnings exactly if the server reported a failure: that its body could not be read, if
  it was cut short, and that the request failed.
* There is an event at level info exactly if the operation asks for a change and succeeded. It is
  the only one and the last event.
* The last event after a success confirms it; the registration of a device is said to be new exactly
  if the answer had status 201. -/
theorem log_tells_ending [Web] {σ : Type} (peer : Peer σ) (server : ServerAddress)
    (op : Operation) (s : σ) :
    let result := (perform peer server op s).1.result
    let log := (perform peer server op s).1.log
    let sent := transcript peer server op s
    let final := Transcript.final? sent
    (∀ fault, op.url server = .error fault → log = []) ∧
    ∀ url, op.url server = .ok url →
      log = op.story url final result ∧
      (op.announcement url).level = .debug ∧
      ((op.request url).url.isSendable = false → sent = [] ∧ log = [op.announcement url]) ∧
      log.filter (·.message = "Received postal response")
        = final.toList.map (fun answer => .answered answer.response.status answer.url) ∧
      (∀ report, result = .error (.remote report) → ∃ answer, final = some answer ∧
        (log.filter (·.level = .warn)).map Event.message
          = (if answer.response.truncated then ["Failed to read postal error body"] else [])
            ++ ["Postal request failed"]) ∧
      ((∀ report, result ≠ .error (.remote report)) → log.filter (·.level = .warn) = []) ∧
      log.filter (·.level = .info)
        = (if op.changes && result.isOk then log.getLast?.toList else []) ∧
      (∀ value, result = .ok value → ∃ answer last, final = some answer ∧
        log.getLast? = some last ∧ op.Confirms answer.response.status value last) := by
  intro result log sent final
  refine ⟨fun fault hurl => log_of_url_error hurl peer s, fun url hurl => ?_⟩
  have hlog : log = op.story url final result := log_of_url hurl peer s
  obtain ⟨hexchange, -, -⟩ := exchange_transcript hurl peer s
  have hfinal := result_of_url hurl peer s
  have hlevel : (op.announcement url).level = .debug := level_announcement op url
  refine ⟨hlog, hlevel, ?_, ?_, ?_⟩
  · intro hsendable
    have hsent : sent = [] := hexchange.eq_nil_iff.mpr hsendable
    have hnone : final = none := congrArg Transcript.final? hsent
    refine ⟨hsent, ?_⟩
    rw [hlog, hnone]
    rfl
  · rw [hlog]
    exact filter_story_received url final
  cases hanswer : final with
  | none =>
      -- Only the announcement is left, and the failure is one of transport.
      have hsilent : log = [op.announcement url] := by
        rw [hlog, hanswer]
        rfl
      obtain ⟨fault, hresult⟩ : ∃ fault, result = .error (.transport fault) := by
        rwa [show Transcript.final? (transcript peer server op s) = none from hanswer] at hfinal
      rw [hsilent, hresult]
      simp [hlevel, Except.isOk, Except.toBool]
  | some answer =>
      rw [hanswer] at hlog
      refine ⟨?_, ?_, ?_, ?_⟩
      · intro report hresult
        refine ⟨answer, rfl, ?_⟩
        rw [hlog, filter_story_warn, hresult, Operation.warnings, List.map_append]
        split
        · rfl
        · rfl
      · intro hresult
        rw [hlog, filter_story_warn]
        exact warnings_of_ne_remote hresult
      · rw [hlog]
        exact filter_story_info url
      · intro value hresult
        obtain ⟨last, hlast, hconfirms⟩ :=
          conclusion_confirms op answer.response.status value answer.url
        refine ⟨answer, last, rfl, ?_, hconfirms⟩
        rw [hlog, hresult]
        exact (List.getLast?_cons_cons ..).trans hlast

section Local

attribute [local instance] Web.withoutTables

/-- A removal that succeeds, and one that fails with a body that is cut short. -/
theorem log_tells_ending_removals :
    let server : ServerAddress := ⟨"localhost", 5300⟩
    let op : Operation := .remove "alice" "tok123"
    let url : Url := ⟨.http, [], [], .domain "localhost".toList, some 5300,
      ["v1", "users", "alice", "devices", "tok123"].map String.toList, none, none⟩
    let done : Script := ⟨[⟨.noContent, none, none, [], false⟩], []⟩
    let failed : Script := ⟨[⟨.notFound, none, none, [], true⟩], []⟩
    op.url server = .ok url ∧
      (perform Peer.scripted server op done).1.log.filter (·.level = .info)
        = [.removed "alice"] ∧
      ((perform Peer.scripted server op failed).1.log.filter (·.level = .warn)).map Event.message
        = ["Failed to read postal error body", "Postal request failed"] := by
  have hurl : (Operation.remove "alice" "tok123").url ⟨"localhost", 5300⟩
      = .ok ⟨.http, [], [], .domain "localhost".toList, some 5300,
        ["v1", "users", "alice", "devices", "tok123"].map String.toList, none, none⟩ := rfl
  intro server op url done failed
  have hsendable : (op.request url).url.isSendable = true := by decide
  -- Each call is one exchange, since neither answer asks to look elsewhere.
  have hdone : send Peer.scripted (op.request url) done
      = (.ok ⟨⟨.noContent, none, none, [], false⟩, url⟩, ⟨done.responses, [op.request url]⟩) := by
    rw [send_of_isSendable hsendable]
    exact sendWith_final rfl rfl
  have hfailed : send Peer.scripted (op.request url) failed
      = (.ok ⟨⟨.notFound, none, none, [], true⟩, url⟩, ⟨failed.responses, [op.request url]⟩) := by
    rw [send_of_isSendable hsendable]
    exact sendWith_final rfl rfl
  refine ⟨hurl, ?_, ?_⟩
  · obtain ⟨-, -, -, -, -, -, hinfo, hok⟩ :=
      (log_tells_ending Peer.scripted server op done).2 url hurl
    have hresult : (perform Peer.scripted server op done).1.result = .ok () := by
      rw [(perform_of_url hurl Peer.scripted done).2, hdone]
      rfl
    obtain ⟨answer, last, -, hlast, rfl⟩ := hok () hresult
    rw [hinfo, hresult, hlast]
    rfl
  · obtain ⟨-, -, -, -, hremote, -⟩ :=
      (log_tells_ending Peer.scripted server op failed).2 url hurl
    have hresult : (perform Peer.scripted server op failed).1.result
        = .error (.remote (Remote.ofResponse ⟨.notFound, none, none, [], true⟩)) := by
      rw [(perform_of_url hurl Peer.scripted failed).2, hfailed]
      rfl
    obtain ⟨answer, hanswer, hwarnings⟩ := hremote _ hresult
    rw [(exchange_transcript hurl Peer.scripted failed).1.final?_eq, hfailed] at hanswer
    obtain rfl := Option.some.inj hanswer
    exact hwarnings

/-- Silence before anything is sent is not what operations keep in general: the host `a{b` can
be put into a URL but not into a request. -/
theorem not_forall_silent : ¬ ∀ (server : ServerAddress) (op : Operation) (script : Script),
    (perform Peer.scripted server op script).1.result.isOk = false →
    transcript Peer.scripted server op script = [] →
    (perform Peer.scripted server op script).1.log = [] := by
  intro h
  have hsilent := h ⟨"a\x7bb", 5300⟩ .status ⟨[⟨.ok, none, none, [], false⟩], []⟩ rfl rfl
  cases hsilent

end Local

end PushRegistry.Client
