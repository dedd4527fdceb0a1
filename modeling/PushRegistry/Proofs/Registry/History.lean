import PushRegistry.Proofs.Registry.Changes
import PushRegistry.Proofs.Registry.Effects
import PushRegistry.Session

/-!
# `PushRegistry.Proofs.Registry.History`: what a server lists after any requests

A server answers arbitrary requests, and only some of them change its registrations.
`change?` reads off a request and its answer whether it did, `registrations_answer` says by cases
of `Effect` that nothing else happens to the registrations, and `reflects_serve` carries the
agreement of `Proofs/Registry/Changes.lean` through a whole run. The main statement is
`replies_of_history`: it gives the answer to every request for the devices of a user from the
changes that were accepted before it.
-/

set_option autoImplicit false

namespace PushRegistry.Registry

open PushRegistry.Text
open PushRegistry.Http (Method Status)
open PushRegistry.Session (serve)

/-! ### Requests and the changes they make -/

/-- The path of a request names the devices of a user, however the name is encoded. -/
def Arrival.NamesDevicesOf (a : Arrival) (user : String) : Prop :=
  ∃ encoded, Route.ofPath? a.path = some (.devices encoded) ∧
    Percent.decodeString? encoded = some user

/-- The key of the device that the path of a request names, if it names one. -/
def Arrival.deviceKey? (a : Arrival) : Option (String × String) :=
  match Route.ofPath? a.path with
  | some (.device user token) => do
    return (← Percent.decodeString? user, ← Percent.decodeString? token)
  | _ => none

/-- The change that a request made, judging by the answer: a registration that was accepted, with
the type that the body gave, or a removal that succeeded. User and token are those of the
path. -/
def change? (a : Arrival) (r : Reply) : Option Change :=
  match a.deviceKey?, a.method, r.status.isSuccess with
  | some key, .put, true => (Device.decode a.body).toOption.map fun given => .put key given.type
  | some key, .delete, true => some (.delete key)
  | _, _, _ => none

/-- The changes that requests made, judging by the answers to them. -/
def changes (arrivals : List Arrival) (replies : List Reply) : List Change :=
  (arrivals.zip replies).filterMap fun p => change? p.1 p.2

theorem deviceKey?_eq_some_iff {a : Arrival} {key : String × String} :
    a.deviceKey? = some key ↔ a.NamesDevice key := by
  unfold Arrival.deviceKey? Arrival.NamesDevice
  constructor
  · intro h
    split at h
    · next user token hroute =>
      cases hu : Percent.decodeString? user with
      | none => simp [hu] at h
      | some u =>
          cases ht : Percent.decodeString? token with
          | none => simp [hu, ht] at h
          | some t =>
              obtain rfl : (u, t) = key := by simpa [hu, ht] using h
              exact ⟨user, token, hroute, hu, ht⟩
    · cases h
  · rintro ⟨user, token, hroute, hu, ht⟩
    rw [hroute]
    simp [hu, ht]

/-! ### One request -/

variable {s : Store} {a : Arrival} {user : String} {key : String × String}

theorem answer_of_route {route : Route} (h : Route.ofPath? a.path = some route) :
    s.answer a = route.serve a s := by
  rw [Store.answer, h]

/-- What neither registers nor removes with success is no change. -/
theorem change?_eq_none {r : Reply}
    (h : r.status.isSuccess = true → a.method ≠ .put ∧ a.method ≠ .delete) : change? a r = none := by
  unfold change?
  split
  · next hmethod hsuccess => exact absurd hmethod (h hsuccess).1
  · next hmethod hsuccess => exact absurd hmethod (h hsuccess).2
  · rfl

/-- Every registration that succeeded counts as a change, with the type that the body gave. -/
theorem change?_of_registered (hkey : a.NamesDevice key) (hmethod : a.method = .put) {r : Reply}
    (hsuccess : r.status.isSuccess = true) {given : Device}
    (hbody : Device.decode a.body = .ok given) : change? a r = some (.put key given.type) := by
  rw [change?, deviceKey?_eq_some_iff.mpr hkey, hmethod, hsuccess, hbody]
  rfl

/-- Every removal that succeeded counts as a change. -/
theorem change?_of_removed (hkey : a.NamesDevice key) (hmethod : a.method = .delete) {r : Reply}
    (hsuccess : r.status.isSuccess = true) : change? a r = some (.delete key) := by
  rw [change?, deviceKey?_eq_some_iff.mpr hkey, hmethod, hsuccess]

/-- Whatever a request asks for, the registrations change as `change?` says, and not at all if it
says nothing. One case for each effect that the request can have. -/
theorem registrations_answer (s : Store) (a : Arrival) :
    (s.answer a).2.registrations
      = (change? a (s.answer a).1).elim s.registrations (·.apply s.registrations) := by
  have heffect := effect_answer s a
  generalize s.answer a = answer at heffect ⊢
  cases heffect with
  | @kept reply hread =>
      have hnone : change? a reply = none := change?_eq_none fun hsuccess => by
        rcases hread hsuccess with hmethod | hmethod <;> simp [hmethod]
      rw [hnone]
      rfl
  | registered hmethod hkey hbody =>
      rw [change?_of_registered hkey hmethod (isSuccess_registered _) hbody]
      rfl
  | removed hmethod hkey hthere =>
      rw [change?_of_removed hkey hmethod rfl]
      rfl
  | notified hmethod =>
      rw [change?_eq_none fun _ => by simp [hmethod]]
      rfl

/-- Every accepted registration counts as a change, and the body gave its type. -/
theorem change?_of_put (hkey : a.NamesDevice key) (hmethod : a.method = .put)
    (hsuccess : (s.answer a).1.status.isSuccess = true) :
    ∃ given, Device.decode a.body = .ok given ∧
      change? a (s.answer a).1 = some (.put key given.type) := by
  -- Of all effects only a registration goes with the method and the success.
  have hgiven : ∃ given, Device.decode a.body = .ok given := by
    have heffect := effect_answer s a
    generalize s.answer a = answer at heffect hsuccess
    cases heffect with
    | kept hread => rcases hread hsuccess with hother | hother <;> simp [hmethod] at hother
    | registered _ _ hbody => exact ⟨_, hbody⟩
    | removed hother => simp [hmethod] at hother
    | notified hother => simp [hmethod] at hother
  obtain ⟨given, hbody⟩ := hgiven
  exact ⟨given, hbody, change?_of_registered hkey hmethod hsuccess hbody⟩

/-- An answered request keeps the registrations in agreement with the history. -/
theorem Reflects.answer {cs : List Change} (h : Reflects s.registrations cs) (a : Arrival) :
    Reflects (s.answer a).2.registrations (cs ++ (change? a (s.answer a).1).toList) := by
  rw [registrations_answer]
  cases change? a (s.answer a).1 with
  | none =>
      rw [Option.toList_none, List.append_nil]
      exact h
  | some c => exact h.change c

/-! ### Runs -/

theorem serve_cons (a : Arrival) (rest : List Arrival) (server : Server) :
    serve (a :: rest) server
      = ((server.handle a).1 :: (serve rest (server.handle a).2).1,
        (serve rest (server.handle a).2).2) := rfl

theorem changes_cons (a : Arrival) (rest : List Arrival) (r : Reply) (replies : List Reply) :
    changes (a :: rest) (r :: replies) = (change? a r).toList ++ changes rest replies := by
  rw [changes, List.zip_cons_cons, List.filterMap_cons]
  cases change? a r with
  | none => rfl
  | some c => rfl

theorem changes_serve_cons (a : Arrival) (rest : List Arrival) (server : Server) :
    changes (a :: rest) (serve (a :: rest) server).1
      = (change? a (server.store.answer a).1).toList
        ++ changes rest (serve rest (server.handle a).2).1 := by
  rw [serve_cons, changes_cons]
  rfl

/-- A run keeps the registrations in agreement with the history. Induction on the requests, for
all servers and all that happened before. -/
theorem reflects_serve (arrivals : List Arrival) (server : Server) (cs : List Change)
    (h : Reflects server.store.registrations cs) :
    Reflects (serve arrivals server).2.store.registrations
      (cs ++ changes arrivals (serve arrivals server).1) := by
  induction arrivals generalizing server cs with
  | nil =>
      rw [show changes [] (serve [] server).1 = [] from rfl, List.append_nil]
      exact h
  | cons a rest ih =>
      rw [changes_serve_cons, ← List.append_assoc]
      exact ih (server.handle a).2 _ (h.answer a)

/-- What comes later does not change the earlier answers. -/
theorem serve_append (before after : List Arrival) (server : Server) :
    serve (before ++ after) server
      = ((serve before server).1 ++ (serve after (serve before server).2).1,
        (serve after (serve before server).2).2) := by
  induction before generalizing server with
  | nil => rfl
  | cons a rest ih => rw [List.cons_append, serve_cons, ih, serve_cons, List.cons_append]

theorem length_serve (arrivals : List Arrival) (server : Server) :
    (serve arrivals server).1.length = arrivals.length := by
  induction arrivals generalizing server with
  | nil => rfl
  | cons a rest ih => rw [serve_cons, List.length_cons, List.length_cons, ih]

/-- The answer to a request in the middle of a run is what the server says after the requests
before it. -/
theorem getElem?_serve (before after : List Arrival) (a : Arrival) (server : Server) :
    (serve (before ++ a :: after) server).1[before.length]?
      = some ((serve before server).2.store.answer a).1 := by
  rw [serve_append, serve_cons]
  simp only
  rw [List.getElem?_append_right (Nat.le_of_eq (length_serve _ _)), length_serve, Nat.sub_self]
  rfl

/-! ### The law -/

theorem document_listDevices_of_route {encoded : List Char} (hmethod : a.method = .get)
    (hroute : Route.ofPath? a.path = some (.devices encoded))
    (hu : Percent.decodeString? encoded = some user) :
    (s.answer a).1 = .document .ok (Device.listToValue (s.registrations.ofUser user)) := by
  rw [answer_of_route hroute, serve_devices hu, hmethod]
  rfl

theorem getDevice_of_namesDevice (hmethod : a.method = .get) (h : a.NamesDevice key) :
    (s.answer a).1 = getDevice key.1 key.2 s := by
  obtain ⟨encodedUser, encodedToken, hroute, hu, ht⟩ := h
  rw [answer_of_route hroute, serve_device hu ht, hmethod]

/-- What a server says about the devices of a user follows from the changes that it accepted. There
is one list of devices, with one entry for each token whose last change under that user is a
registration: it has the type of that registration, and the entries stand in the order in which
the tokens were first registered after their last removal. Every request for the devices of the
user is answered with this list, and every request for one of them with its entry in the list,
or with the error document for a missing device.

The requests before are arbitrary, and so is what follows. -/
theorem replies_of_history (before : List Arrival) (user : String) :
    ∃ ds : List Device,
      (∀ d, d ∈ ds ↔ d.user = user ∧
        LastPut (changes before (serve before Server.fresh).1) d.key d.type) ∧
      (ds.map Device.token).Nodup ∧
      ds.Pairwise (fun d e => Before (changes before (serve before Server.fresh).1) d.key e.key) ∧
      ∀ (a : Arrival) (after : List Arrival), a.method = .get →
        (a.NamesDevicesOf user →
          (serve (before ++ a :: after) Server.fresh).1[before.length]?
            = some (.document .ok (Device.listToValue ds))) ∧
        ∀ token, a.NamesDevice (user, token) →
          (serve (before ++ a :: after) Server.fresh).1[before.length]?
            = some (match ds.find? (·.token = token) with
              | some d => .document .ok d.toValue
              | none => .deviceNotFound) := by
  -- The list is the one in the memory of the server; the history determines it.
  have hreflects := reflects_serve before Server.fresh [] Reflects.nil
  rw [List.nil_append] at hreflects
  have hordered : ((serve before Server.fresh).2.store.registrations.ofUser user).Pairwise
      (fun d e => Before (changes before (serve before Server.fresh).1) d.key e.key) :=
    (List.pairwise_map.mp hreflects.ordered).filter _
  refine ⟨(serve before Server.fresh).2.store.registrations.ofUser user, ?_,
    Registrations.nodup_tokens_ofUser, hordered, ?_⟩
  · intro d
    rw [Registrations.mem_ofUser, hreflects.mem_iff, and_comm]
  · intro a after hmethod
    rw [getElem?_serve]
    constructor
    · rintro ⟨encoded, hroute, hu⟩
      rw [document_listDevices_of_route hmethod hroute hu]
    · intro token h
      have hfind : (serve before Server.fresh).2.store.registrations.find? (user, token)
          = ((serve before Server.fresh).2.store.registrations.ofUser user).find?
              (·.token = token) := Registrations.find?_eq_find?_ofUser
      rw [getDevice_of_namesDevice hmethod h]
      exact congrArg (fun found => some (match found with
        | some d => Reply.document .ok d.toValue
        | none => Reply.deviceNotFound)) hfind

/-- After one registration with an encoded path the devices of that user are the one that the path
names, with the type that the body gave; whom the body named does not matter. -/
theorem replies_of_history_encoded :
    (serve
      [⟨.put, "/v1/users/a%20b/devices/tok".toList, none, none,
          Utf8.ofString (Device.toValue ⟨"somebody", "else", .gcm⟩).compact⟩,
        ⟨.get, "/v1/users/a%20b/devices".toList, none, none, []⟩] Server.fresh).1[1]?
      = some (.document .ok (Device.listToValue [⟨"a b", "tok", .gcm⟩])) := by
  -- The two requests are kept abstract, so that no step below evaluates a whole run.
  have hreply : ∀ put get : Arrival, put.method = .put → put.NamesDevice ("a b", "tok") →
      put.body = Utf8.ofString (Device.toValue ⟨"somebody", "else", .gcm⟩).compact →
      get.method = .get → get.NamesDevicesOf "a b" →
      (serve [put, get] Server.fresh).1[1]?
        = some (.document .ok (Device.listToValue [⟨"a b", "tok", .gcm⟩])) := by
    intro put get hput hdevice hbody hget hdevices
    have hsuccess : (Store.empty.answer put).1.status.isSuccess = true := by
      obtain ⟨user, token, hroute, hu, ht⟩ := hdevice
      rw [answer_of_route hroute, serve_device hu ht, hput, hbody, putDevice_compact _ _ (by decide)]
      rfl
    have hchanges : changes [put] (serve [put] Server.fresh).1 = [.put ("a b", "tok") .gcm] := by
      obtain ⟨given, hdecode, hchange⟩ := change?_of_put hdevice hput hsuccess
      rw [hbody, Device.decode_compact] at hdecode
      obtain rfl := Except.ok.inj hdecode
      rw [changes_serve_cons]
      show (change? put (Store.empty.answer put).1).toList ++ [] = _
      rw [hchange]
      rfl
    obtain ⟨ds, hmem, hnodup, -, hreplies⟩ := replies_of_history [put] "a b"
    rw [hchanges] at hmem
    -- The one change leaves one device, and a list with distinct tokens holds it once.
    have hds : ds = [⟨"a b", "tok", .gcm⟩] := by
      refine List.perm_singleton.mp ((List.perm_ext_iff_of_nodup hnodup.of_map
        (List.nodup_singleton _)).mpr fun d => ?_)
      rw [hmem, List.mem_singleton, ← List.nil_append [Change.put _ _], lastPut_concat_iff]
      constructor
      · rintro ⟨-, hput | ⟨-, hnil⟩⟩
        · cases d
          cases hput
          rfl
        · exact absurd hnil not_lastPut_nil
      · rintro rfl
        exact ⟨rfl, Or.inl rfl⟩
    rw [← hds]
    exact (hreplies get [] hget).1 hdevices
  exact hreply _ _ rfl ⟨"a%20b".toList, "tok".toList, rfl, rfl, rfl⟩ rfl rfl
    ⟨"a%20b".toList, rfl, rfl⟩

end PushRegistry.Registry
