import PushRegistry.Proofs.Client.Classification
import PushRegistry.Proofs.Refinement
import PushRegistry.Proofs.Registry.History

/-!
# `PushRegistry.Proofs.Replay`: the log of a server can be played again

A server records of each request its method, its path and its body, besides two headers. That is
all that its answers depend on: a fresh server to which the recorded requests are sent once more
gives the same answers and ends with the same memory (`play_replays`), whoever sent them at first
and whatever else they carried.

The requests of a session are known in advance (`Step.requests`), because a client on the loopback
address sends one request for each operation with an address that a request can have, and a server
never redirects. To say what the server answered to each of them, `watch` runs the session with a
server that keeps an account of its own beside the log.
-/

set_option autoImplicit false

namespace PushRegistry.Session

open PushRegistry.Client
open PushRegistry.Http (Method Peer)
open PushRegistry.Registry
open PushRegistry.Text

variable {σ : Type} {port : Nat}

/-! ### Sessions with a server -/

/-- A request that is sent to a server as it is, and that arrives there. -/
structure RawRequest where
  method : String
  /-- The path, and the query and the fragment if there are any. -/
  target : String
  contentType : Option String
  userAgent : Option String
  body : List UInt8

/-- The marks behind a path: those of a query and of a fragment. -/
def endsPath (c : Char) : Bool := c = '?' || c = '#'

/-- The request as it arrives. -/
def RawRequest.arrival (r : RawRequest) : Arrival where
  method := Method.ofName r.method
  path := r.target.toList.takeWhile (!endsPath ·)
  contentType := r.contentType
  userAgent := r.userAgent
  body := r.body

/-- What can happen to a server: its client performs an operation, or a request comes from
elsewhere. -/
inductive Step where
  | call (op : Operation)
  | raw (r : RawRequest)

section Web

variable [Http.Web]

/-- The server after a step. -/
def Step.next (port : Nat) (server : Server) : Step → Server
  | .call op => (perform Server.peer (loopback port) op server).2
  | .raw r => (server.handle r.arrival).2

/-- A server that was fresh before the steps. -/
def play (port : Nat) (steps : List Step) : Server := steps.foldl (Step.next port) Server.fresh

/-- A server with an account of the requests that it received and of its answers. -/
structure Watched where
  server : Server
  exchanges : List (Arrival × Reply)

namespace Watched

/-- Answers a request. -/
def handle (w : Watched) (a : Arrival) : Reply × Watched :=
  let (reply, server) := w.server.handle a
  (reply, ⟨server, w.exchanges ++ [(a, reply)]⟩)

/-- The watched server on the other side of a client. -/
def peer : Peer Watched := fun request w =>
  let (reply, w) := w.handle (Server.arrival request)
  (.answered (reply.toResponse.delivered request), w)

end Watched

/-- The watched server after a step. -/
def Step.watched (port : Nat) (w : Watched) : Step → Watched
  | .call op => (perform Watched.peer (loopback port) op w).2
  | .raw r => (w.handle r.arrival).2

/-- A watched server that was fresh before the steps. -/
def watch (port : Nat) (steps : List Step) : Watched :=
  steps.foldl (Step.watched port) ⟨Server.fresh, []⟩

/-- The requests of a step: an operation sends none if it has no address, or one that no request
can have. -/
def Step.requests (port : Nat) : Step → List Arrival
  | .call op =>
    match op.url (loopback port) with
    | .ok url => if (op.request url).url.isSendable then [Server.arrival (op.request url)] else []
    | .error _ => []
  | .raw r => [r.arrival]

/-! ### One step -/

section Steps

variable {op : Operation} {url : Url}

/-- The URL of an operation on the loopback address differs from the base URL in its path only. -/
theorem exists_path_of_url (hport : port ≤ 65535) (hurl : op.url (loopback port) = .ok url) :
    ∃ more, url = loopbackUrl port (Url.Path.extend [[]] more) := by
  rw [url_eq, baseUrl_eq_loopbackUrl hport] at hurl
  cases hrefused : op.refused? with
  | some p =>
      rw [hrefused] at hurl
      cases hurl
  | none =>
      rw [hrefused] at hurl
      cases hurl
      exact ⟨_, rfl⟩

/-- A peer that answers without a redirection is asked once. -/
theorem perform_answered (hurl : op.url (loopback port) = .ok url)
    (hsendable : (op.request url).url.isSendable = true) {peer : Peer σ} {s s' : σ} {reply : Reply}
    (hpeer : peer (op.request url) s
      = (.answered (reply.toResponse.delivered (op.request url)), s')) :
    (perform peer (loopback port) op s).2 = s' := by
  rw [(perform_of_url hurl peer s).1, Http.send_of_isSendable hsendable,
    Http.sendWith_final hpeer (redirect?_of_location_eq_none (location_delivered _ _))]

/-- What an operation sends: one request to its address, or nothing, whoever the other side is. -/
theorem requests_call (port : Nat) (op : Operation) :
    (∃ url, op.url (loopback port) = .ok url ∧ (op.request url).url.isSendable = true ∧
      (Step.call op).requests port = [Server.arrival (op.request url)]) ∨
    ((Step.call op).requests port = [] ∧
      ∀ {τ : Type} (peer : Peer τ) (s : τ), (perform peer (loopback port) op s).2 = s) := by
  rw [Step.requests]
  cases hurl : op.url (loopback port) with
  | error fault =>
      exact .inr ⟨rfl, fun peer s => (perform_of_url_error hurl peer s).2.1⟩
  | ok url =>
      cases hsendable : (op.request url).url.isSendable with
      | true => exact .inl ⟨url, rfl, hsendable, by simp only [hsendable, if_true]⟩
      | false =>
          refine .inr ⟨by simp [hsendable], fun peer s => ?_⟩
          rw [(perform_of_url hurl peer s).1, Http.send_of_not_isSendable hsendable]

/-- A step leaves the server as its requests do. -/
theorem next_eq (step : Step) (server : Server) :
    step.next port server = (serve (step.requests port) server).2 := by
  cases step with
  | raw r => rfl
  | call op =>
      obtain ⟨url, hurl, hsendable, hrequests⟩ | ⟨hrequests, hidle⟩ := requests_call port op
      · rw [hrequests]
        exact perform_answered hurl hsendable rfl
      · rw [hrequests]
        exact hidle Server.peer server

/-- Watching a server does not change what it does. -/
theorem watched_eq (step : Step) (w : Watched) :
    step.watched port w
      = ⟨(serve (step.requests port) w.server).2,
        w.exchanges ++ (step.requests port).zip (serve (step.requests port) w.server).1⟩ := by
  cases step with
  | raw r => rfl
  | call op =>
      obtain ⟨url, hurl, hsendable, hrequests⟩ | ⟨hrequests, hidle⟩ := requests_call port op
      · rw [hrequests]
        exact perform_answered hurl hsendable rfl
      · rw [hrequests]
        show (perform Watched.peer (loopback port) op w).2 = ⟨w.server, w.exchanges ++ []⟩
        rw [hidle Watched.peer w, List.append_nil]

end Steps

/-! ### Sessions -/

theorem play_eq (steps : List Step) (server : Server) :
    steps.foldl (Step.next port) server
      = (serve (steps.flatMap (Step.requests port)) server).2 := by
  induction steps generalizing server with
  | nil => rfl
  | cons step steps ih =>
      rw [List.foldl_cons, ih, next_eq, List.flatMap_cons, serve_append]

theorem watch_eq (steps : List Step) (w : Watched) :
    steps.foldl (Step.watched port) w
      = ⟨(serve (steps.flatMap (Step.requests port)) w.server).2,
        w.exchanges ++ (steps.flatMap (Step.requests port)).zip
          (serve (steps.flatMap (Step.requests port)) w.server).1⟩ := by
  induction steps generalizing w with
  | nil => exact congrArg (Watched.mk w.server) (List.append_nil _).symm
  | cons step steps ih =>
      -- There are as many answers as requests, so the account of the rest follows that of the step.
      rw [List.foldl_cons, ih, watched_eq, List.flatMap_cons, serve_append,
        List.zip_append (length_serve _ _).symm, List.append_assoc]

end Web

/-! ### Playing again -/

/-- A server records every request that it receives, in order. -/
theorem log_serve (arrivals : List Arrival) (server : Server) :
    (serve arrivals server).2.log = server.log ++ arrivals.map Arrival.record := by
  induction arrivals generalizing server with
  | nil => exact (List.append_nil _).symm
  | cons a rest ih =>
      rw [serve_cons, ih, List.map_cons, Server.handle, List.append_assoc, List.singleton_append]

/-- The second request differs from the first one in its headers at most. -/
structure Alike (a b : Arrival) : Prop where
  method : b.method = a.method
  path : b.path = a.path
  body : b.body = a.body

/-- No answer depends on a header. -/
theorem answer_of_alike {a b : Arrival} (h : Alike a b) (s : Store) : s.answer b = s.answer a := by
  -- With the shared parts identified, only headers differ, and no handler looks at those.
  obtain ⟨method, path, contentType, userAgent, body⟩ := a
  obtain ⟨method', path', contentType', userAgent', body'⟩ := b
  obtain ⟨rfl, rfl, rfl⟩ := h
  rfl

/-- The method, the path and the body of a record. -/
def essentials (r : Recorded) : String × String × String := (r.method, r.path, r.body)

theorem essentials_record_of_alike {a b : Arrival} (h : Alike a b) :
    essentials b.record = essentials a.record := by
  rw [essentials, essentials, Arrival.record, Arrival.record, h.method, h.path, h.body]

/-- Requests that differ in their headers at most have the same answers and the same effect, and
leave records that differ in the headers at most. The induction is for all servers that agree so
far. -/
theorem serve_of_alike {as bs : List Arrival} (h : List.Forall₂ Alike as bs) {server twin : Server}
    (hstore : twin.store = server.store)
    (hlog : twin.log.map essentials = server.log.map essentials) :
    (serve bs twin).1 = (serve as server).1 ∧
      (serve bs twin).2.store = (serve as server).2.store ∧
      (serve bs twin).2.log.map essentials = (serve as server).2.log.map essentials := by
  induction h generalizing server twin with
  | nil => exact ⟨rfl, hstore, hlog⟩
  | @cons a b as bs hab _ ih =>
      have hanswer : twin.store.answer b = server.store.answer a := by
        rw [hstore, answer_of_alike hab]
      have hlog' : (twin.handle b).2.log.map essentials
          = (server.handle a).2.log.map essentials := by
        show (twin.log ++ [b.record]).map _ = (server.log ++ [a.record]).map _
        rw [List.map_append, List.map_append, hlog, List.map_singleton, List.map_singleton,
          essentials_record_of_alike hab]
      have hstore' : (twin.handle b).2.store = (server.handle a).2.store :=
        congrArg Prod.snd hanswer
      obtain ⟨hreplies, hkept⟩ := ih hstore' hlog'
      rw [serve_cons, serve_cons]
      refine ⟨?_, hkept⟩
      show (twin.store.answer b).1 :: _ = (server.store.answer a).1 :: _
      rw [hanswer, hreplies]

/-- A request that sends a recorded one once more. Its headers are free. -/
structure Resends (r : Recorded) (again : RawRequest) : Prop where
  method : again.method = r.method
  target : again.target = r.path
  body : again.body = Utf8.ofString r.body

/-- A request of which the record keeps everything but the headers. -/
structure Recordable (a : Arrival) : Prop where
  method : Method.ofName a.method.name = a.method
  path : ∀ c ∈ a.path, endsPath c = false
  body : Utf8.fault? a.body = none

/-- What sends a record once more is like the request that was recorded. -/
theorem alike_of_resends {a : Arrival} (ha : Recordable a) {again : RawRequest}
    (h : Resends a.record again) : Alike a again.arrival := by
  have hpath : ∀ c ∈ a.path, (!endsPath c) = true := by
    intro c hc
    rw [ha.path c hc, Bool.not_false]
  refine ⟨?_, ?_, ?_⟩
  · show Method.ofName again.method = a.method
    rw [h.method]
    exact ha.method
  · show again.target.toList.takeWhile (!endsPath ·) = a.path
    rw [h.target]
    show (String.ofList a.path).toList.takeWhile _ = a.path
    rw [String.toList_ofList, List.takeWhile_eq_self_iff.mpr hpath]
  · show again.body = a.body
    rw [h.body]
    exact Utf8.ofString_toStringLossy ha.body

theorem name_ofName (name : String) : (Method.ofName name).name = name := by
  unfold Method.ofName
  split <;> rfl

theorem ofName_method (op : Operation) : Method.ofName op.method.name = op.method := by
  cases op <;> rfl

/-- No path of a client holds a mark that ends a path. -/
theorem endsPath_of_mem_text (more : List (List Char)) :
    ∀ c ∈ Url.Path.text (Url.Path.extend [[]] more), endsPath c = false := by
  -- Both marks are encoded in every segment, and what divides segments is a slash.
  have hmark : ∀ mark, Percent.segmentSet mark = true → mark ≠ '%' → mark ≠ '/' →
      mark ∉ Url.Path.text (Url.Path.extend [[]] more) := by
    intro mark hset hescape hslash h
    obtain ⟨s, hs, hmem⟩ := List.mem_flatMap.mp h
    rcases List.mem_cons.mp hmem with rfl | hmem
    · exact hslash rfl
    · exact Url.Path.not_mem_of_mem_extend hset hescape (by simp) more s hs hmem
  intro c hc
  have hquery : c ≠ '?' := fun h =>
    hmark '?' (by decide) (by decide) (by decide) (h ▸ hc)
  have hfragment : c ≠ '#' := fun h =>
    hmark '#' (by decide) (by decide) (by decide) (h ▸ hc)
  simp [endsPath, hquery, hfragment]

theorem fault?_body_request (op : Operation) (url : Url) :
    Utf8.fault? (op.request url).body = none := by
  show Utf8.fault? op.body = none
  rw [Operation.body]
  cases op.document? with
  | none => rfl
  | some v => exact Utf8.fault?_encode v.compact.toList

section Web

variable [Http.Web]

/-- The record of a request of a session keeps everything but the headers, if the bodies that come
from elsewhere are texts. -/
theorem recordable_of_mem_requests (hport : port ≤ 65535) {step : Step}
    (hbody : ∀ r, step = .raw r → Utf8.fault? r.body = none) {a : Arrival}
    (ha : a ∈ step.requests port) : Recordable a := by
  cases step with
  | raw r =>
      -- The method is one that was read from a name, and the path was cut at the mark.
      obtain rfl := List.mem_singleton.mp ha
      refine ⟨congrArg Method.ofName (name_ofName r.method), fun c hc => ?_, hbody r rfl⟩
      simpa using List.mem_takeWhile_imp hc
  | call op =>
      obtain ⟨url, hurl, -, hrequests⟩ | ⟨hrequests, -⟩ := requests_call port op
      · rw [hrequests] at ha
        obtain rfl := List.mem_singleton.mp ha
        refine ⟨ofName_method op, ?_, fault?_body_request op url⟩
        obtain ⟨more, rfl⟩ := exists_path_of_url hport hurl
        show ∀ c ∈ (op.request (loopbackUrl port _)).url.pathText, endsPath c = false
        rw [request_url rfl]
        exact endsPath_of_mem_text more
      · rw [hrequests] at ha
        cases ha

/-! ### What the log tells -/

/-- The log of a server holds one entry for every request of a session, in order, whatever the
answer was. If the bodies of the requests are texts, the log can be played again: sent to a fresh
server, with any headers, the recorded requests have the same answers, leave the same memory behind
and are recorded with the same methods, paths and bodies.

The requests of clients always have texts for bodies. That a server is watched changes nothing. -/
theorem play_replays (hport : port ≤ 65535) (steps : List Step) :
    let server := play port steps
    let watched := watch port steps
    watched.server = server ∧
    watched.exchanges.map Prod.fst = steps.flatMap (Step.requests port) ∧
    server.log = watched.exchanges.map (fun exchange => exchange.1.record) ∧
    ((∀ r, .raw r ∈ steps → Utf8.fault? r.body = none) →
      ∀ requests : List RawRequest, List.Forall₂ Resends server.log requests →
        let replayed := serve (requests.map RawRequest.arrival) Server.fresh
        replayed.1 = watched.exchanges.map Prod.snd ∧
        replayed.2.store = server.store ∧
        replayed.2.log.map essentials = server.log.map essentials) := by
  intro server watched
  have hplay : server = (serve (steps.flatMap (Step.requests port)) Server.fresh).2 :=
    play_eq steps Server.fresh
  have hwatch : watched = ⟨(serve (steps.flatMap (Step.requests port)) Server.fresh).2,
      [] ++ (steps.flatMap (Step.requests port)).zip
        (serve (steps.flatMap (Step.requests port)) Server.fresh).1⟩ :=
    watch_eq steps ⟨Server.fresh, []⟩
  -- What the requests are made of matters only for whether they can be recorded.
  generalize hall : steps.flatMap (Step.requests port) = arrivals at hplay hwatch ⊢
  have hlength : (serve arrivals Server.fresh).1.length = arrivals.length := length_serve _ _
  have hlog : server.log = arrivals.map Arrival.record := by
    rw [hplay, log_serve]
    rfl
  rw [List.nil_append] at hwatch
  have harrivals : watched.exchanges.map Prod.fst = arrivals := by
    rw [hwatch]
    exact List.map_fst_zip (le_of_eq hlength.symm)
  have hreplies : watched.exchanges.map Prod.snd = (serve arrivals Server.fresh).1 := by
    rw [hwatch]
    exact List.map_snd_zip (le_of_eq hlength)
  refine ⟨by rw [hwatch, hplay], harrivals, ?_, ?_⟩
  · rw [hlog, ← harrivals, List.map_map]
    rfl
  intro hbodies requests hresends replayed
  have hrecordable : ∀ a ∈ arrivals, Recordable a := by
    intro a ha
    rw [← hall] at ha
    obtain ⟨step, hstep, ha⟩ := List.mem_flatMap.mp ha
    exact recordable_of_mem_requests hport (fun r hr => hbodies r (hr ▸ hstep)) ha
  rw [hlog] at hresends
  -- Each request that is sent again is like the one whose record it sends.
  have halike : List.Forall₂ Alike arrivals (requests.map RawRequest.arrival) := by
    rw [List.forall₂_map_right_iff]
    rw [List.forall₂_map_left_iff] at hresends
    exact ((List.forall₂_and_left arrivals requests).mpr ⟨hrecordable, hresends⟩).imp
      fun a again h => alike_of_resends h.1 h.2
  rw [hreplies, hplay]
  exact serve_of_alike halike rfl rfl

end Web

section Local

attribute [local instance] Http.Web.withoutTables

/-- A registration with a query, an operation of the client and a request with a wrong method, played
again without any headers. -/
theorem play_replays_refused :
    let body := (Device.toValue ⟨"alice", "tok123", .gcm⟩).compact
    let steps : List Step :=
      [.raw ⟨"PUT", "/v1/users/a%20b/devices/tok?x=1", some "text/plain", none, Utf8.ofString body⟩,
        .call (.get "a b" "tok"), .raw ⟨"POST", "/status", none, some "probe", []⟩]
    let server := play 5300 steps
    let again := server.log.map fun r => RawRequest.mk r.method r.path none none (Utf8.ofString r.body)
    (∀ r, .raw r ∈ steps → Utf8.fault? r.body = none) ∧ server.log.length = 3 ∧
      (serve (again.map RawRequest.arrival) Server.fresh).2.store = server.store := by
  intro body steps server again
  have hbodies : ∀ r, .raw r ∈ steps → Utf8.fault? r.body = none := by
    intro r hr
    rcases List.mem_cons.mp hr with hr | hr
    · cases hr
      exact Utf8.fault?_encode _
    rcases List.mem_cons.mp hr with hr | hr
    · cases hr
    · cases List.mem_singleton.mp hr
      rfl
  have hresends : List.Forall₂ Resends server.log again :=
    List.forall₂_map_right_iff.mpr (List.forall₂_same.mpr fun _ _ => ⟨rfl, rfl, rfl⟩)
  have hsent : (Step.call (.get "a b" "tok")).requests 5300
      = [Server.arrival ((Operation.get "a b" "tok").request
        (loopbackUrl 5300 (["v1", "users", "a%20b", "devices", "tok"].map String.toList)))] := rfl
  obtain ⟨-, hrequests, hlog, hreplay⟩ := play_replays (show 5300 ≤ 65535 by decide) steps
  refine ⟨hbodies, ?_, (hreplay hbodies again hresends).2.1⟩
  rw [hlog, List.length_map, ← List.length_map (f := Prod.fst), hrequests]
  show ([_] ++ ((Step.call (.get "a b" "tok")).requests 5300 ++ ([_] ++ []))).length = 3
  rw [hsent]
  rfl

end Local

end PushRegistry.Session
