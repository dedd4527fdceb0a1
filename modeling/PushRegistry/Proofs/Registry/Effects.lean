import PushRegistry.Proofs.Registry.Answer

/-!
# `PushRegistry.Proofs.Registry.Effects`: what one request does to a server

`Effect s a` lists the four things that a server can do with a request `a` when its memory is
`s`: it keeps its memory, registers a device, removes one or accepts a notification. Each case
names the conditions under which it arises, the reply and the memory afterwards.
`effect_answer` says that every request has one of these effects, whatever its path, its method
and its body are. Statements about runs split on the cases of `Effect` and need not look at the
handlers again.

`handle_of_refused_or_read` is the first of them: a request that is refused, or that only asks
for something, leaves nothing behind but its record.
-/

set_option autoImplicit false

namespace PushRegistry.Registry

open PushRegistry.Http (Status)
open PushRegistry.Text

/-- The path of a request names one device, however user and token are encoded. -/
def Arrival.NamesDevice (a : Arrival) (key : String × String) : Prop :=
  ∃ user token, Route.ofPath? a.path = some (.device user token) ∧
    Percent.decodeString? user = some key.1 ∧ Percent.decodeString? token = some key.2

/-- What a server can do with a request: the reply and the memory afterwards. -/
inductive Effect (s : Store) (a : Arrival) : Reply × Store → Prop where
  /-- The memory stays as it is. Of these requests only those that read can succeed. -/
  | kept {reply : Reply} (h : reply.status.isSuccess = true → a.method = .get ∨ a.method = .head) :
      Effect s a (reply, s)
  /-- The body is a device, and a device of its type is registered under the user and the token of
  the path. -/
  | registered {key : String × String} {given : Device} (hmethod : a.method = .put)
      (hkey : a.NamesDevice key) (hbody : Device.decode a.body = .ok given) :
      Effect s a (.document (if s.registrations.contains key then .ok else .created)
        (Device.toValue ⟨key.1, key.2, given.type⟩), s.put ⟨key.1, key.2, given.type⟩)
  /-- The device that the path names is there and is removed. -/
  | removed {key : String × String} (hmethod : a.method = .delete) (hkey : a.NamesDevice key)
      (hthere : s.registrations.contains key = true) :
      Effect s a (.bare .noContent, s.remove key)
  /-- The body is a payload with all its parts, and the notification is accepted. -/
  | notified {payload : Json.Value} (hmethod : a.method = .post)
      (hroute : Route.ofPath? a.path = some .notify)
      (hbody : Json.Value.decode a.body = .ok payload) (hparts : isPayload payload = true) :
      Effect s a (.bare .ok, s.notify payload)

namespace Effect

variable {s : Store} {a : Arrival} {reply : Reply} {user token : List Char}
  {key : String × String}

/-- A refusal changes nothing. -/
theorem refused (h : reply.status.isSuccess = false) : Effect s a (reply, s) :=
  kept fun hsuccess => absurd (h.symm.trans hsuccess) Bool.false_ne_true

/-- Reading changes nothing. -/
theorem read (h : a.method = .get ∨ a.method = .head) : Effect s a (reply, s) := kept fun _ => h

/-! ### Handlers -/

theorem putDevice (hmethod : a.method = .put) (hkey : a.NamesDevice key) :
    Effect s a (Registry.putDevice key.1 key.2 a.body s) := by
  unfold Registry.putDevice
  cases hread : bodyRefusal? a.body with
  | some refusal => exact .refused (isSuccess_of_bodyRefusal? hread)
  | none =>
      cases hbody : Device.decode a.body with
      | error fault => exact .refused rfl
      | ok given => exact .registered hmethod hkey hbody

theorem deleteDevice (hmethod : a.method = .delete) (hkey : a.NamesDevice key) :
    Effect s a (Registry.deleteDevice key.1 key.2 s) := by
  unfold Registry.deleteDevice
  by_cases hthere : s.registrations.contains (key.1, key.2) = true
  · rw [if_pos hthere]
    exact .removed hmethod hkey hthere
  · rw [if_neg hthere]
    exact .refused rfl

theorem notify (hmethod : a.method = .post) (hroute : Route.ofPath? a.path = some .notify) :
    Effect s a (Registry.notify a.body s) := by
  unfold Registry.notify
  cases hread : bodyRefusal? a.body with
  | some refusal => exact .refused (isSuccess_of_bodyRefusal? hread)
  | none =>
      cases hbody : Json.Value.decode a.body with
      -- A body that is no document counts as null, which has none of the parts.
      | error fault => exact .refused rfl
      | ok payload =>
          by_cases hparts : isPayload payload = true
          · simp only [hparts, if_true]
            exact .notified hmethod hroute hbody hparts
          · simp only [hparts]
            exact .refused rfl

/-! ### Resources -/

/-- An action on a device happens only if user and token of the path decode. -/
theorem named {action : String → String → Reply × Store}
    (hroute : Route.ofPath? a.path = some (.device user token))
    (haction : ∀ key, a.NamesDevice key → Effect s a (action key.1 key.2)) :
    Effect s a (Route.serve.named s user token action) := by
  unfold Route.serve.named
  cases hu : Percent.decodeString? user with
  | none =>
      rw [decodeIdentifier_error hu]
      exact .refused rfl
  | some u =>
      rw [decodeIdentifier_ok hu]
      cases ht : Percent.decodeString? token with
      | none =>
          rw [decodeIdentifier_error ht]
          exact .refused rfl
      | some t =>
          rw [decodeIdentifier_ok ht]
          exact haction (u, t) ⟨user, token, hroute, hu, ht⟩

/-- A request to a resource has one of the effects, by the resource and the method. -/
theorem serve {route : Route} (hroute : Route.ofPath? a.path = some route) :
    Effect s a (route.serve a s) := by
  unfold Route.serve
  cases route with
  | devices user =>
      cases hmethod : a.method with
      | get => exact .read (Or.inl hmethod)
      | head => exact .read (Or.inr hmethod)
      | post => exact .refused rfl
      | put => exact .refused rfl
      | delete => exact .refused rfl
      | other name => exact .refused rfl
  | device user token =>
      cases hmethod : a.method with
      | get => exact .read (Or.inl hmethod)
      | head => exact .read (Or.inr hmethod)
      | put => exact named hroute fun key hkey => putDevice hmethod hkey
      | delete => exact named hroute fun key hkey => deleteDevice hmethod hkey
      | post => exact .refused rfl
      | other name => exact .refused rfl
  | notify =>
      cases hmethod : a.method with
      | post => exact notify hmethod hroute
      | get => exact .refused rfl
      | head => exact .refused rfl
      | put => exact .refused rfl
      | delete => exact .refused rfl
      | other name => exact .refused rfl
  | status =>
      cases hmethod : a.method with
      | get => exact .read (Or.inl hmethod)
      | head => exact .read (Or.inr hmethod)
      | post => exact .refused rfl
      | put => exact .refused rfl
      | delete => exact .refused rfl
      | other name => exact .refused rfl

end Effect

/-- Every request has one of the effects. -/
theorem effect_answer (s : Store) (a : Arrival) : Effect s a (s.answer a) := by
  unfold Store.answer
  cases hroute : Route.ofPath? a.path with
  | none => exact .refused rfl
  | some route => exact .serve hroute

/-! ### Requests that change nothing -/

/-- A registration is accepted with one of two statuses. -/
theorem isSuccess_registered (there : Bool) :
    (if there then Status.ok else Status.created).isSuccess = true := by
  cases there <;> rfl

/-- What changes the memory of a server is answered with success, and its method is none of those
that read. -/
theorem Effect.eq_of_refused_or_read {s s' : Store} {a : Arrival} {reply : Reply}
    (h : Effect s a (reply, s'))
    (hquiet : reply.status.isSuccess = false ∨ a.method = .get ∨ a.method = .head) : s' = s := by
  -- A change needs a success and a method of its own.
  have hchange : reply.status.isSuccess = true → a.method ≠ .get → a.method ≠ .head → s' = s := by
    intro hsuccess hget hhead
    rcases hquiet with hrefused | hmethod | hmethod
    · exact absurd (hrefused.symm.trans hsuccess) Bool.false_ne_true
    · exact absurd hmethod hget
    · exact absurd hmethod hhead
  cases h with
  | kept => rfl
  | registered hmethod =>
      exact hchange (isSuccess_registered _) (by simp [hmethod]) (by simp [hmethod])
  | removed hmethod => exact hchange rfl (by simp [hmethod]) (by simp [hmethod])
  | notified hmethod => exact hchange rfl (by simp [hmethod]) (by simp [hmethod])

/-- A request that is not answered with success leaves the devices and their order, the counters
and the notifications as they are, and so does every request with one of the methods that read.
The only trace of it is its record at the end of the log. -/
theorem handle_of_refused_or_read (server : Server) (a : Arrival)
    (h : (server.handle a).1.status.isSuccess = false ∨ a.method = .get ∨ a.method = .head) :
    (server.handle a).2 = ⟨server.store, server.log ++ [a.record]⟩ := by
  have hstore : (server.store.answer a).2 = server.store :=
    (effect_answer server.store a).eq_of_refused_or_read h
  show Server.mk (server.store.answer a).2 (server.log ++ [a.record]) = _
  rw [hstore]

/-- A body that is no text is refused, also for a device that is there, and only recorded. -/
theorem handle_of_refused_or_read_unreadable :
    let server : Server := ⟨Store.empty.put ⟨"a b", "tok", .ios⟩, []⟩
    let a : Arrival := ⟨.put, "/v1/users/a%20b/devices/tok".toList, none, none, [0xff]⟩
    (server.handle a).1.status = .badRequest ∧ (server.handle a).2 = ⟨server.store, [a.record]⟩ :=
  ⟨rfl, handle_of_refused_or_read _ _ (Or.inl rfl)⟩

end PushRegistry.Registry
