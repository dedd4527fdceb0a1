import PushRegistry.Proofs.Registry.Keeping
import PushRegistry.Proofs.Registry.Routing

/-!
# `PushRegistry.Proofs.Registry.Replies`: what a server replies to the operations

A directory determines the reply to each operation (`Directory.reply`). `keeps_answer` says that
a server that keeps the directory gives this reply, and keeps the next directory afterwards. It
is about requests that arrive at the resource of the operation, with its method and its body.
-/

set_option autoImplicit false

namespace PushRegistry.Registry

open PushRegistry.Client (Operation)
open PushRegistry.Http (Status)
open PushRegistry.ServerAddress
open PushRegistry.Text

/-- An identifier is accepted, and so is what is left of it in a URL. -/
def Identifies (value : String) : Prop := Accepts value ∧ Accepts (stripped value)

instance (value : String) : Decidable (Identifies value) :=
  inferInstanceAs (Decidable (Accepts value ∧ Accepts (stripped value)))

/-- An operation whose identifiers name something, and whose notification can be read back. -/
def Admissible : Operation → Prop
  | .add e => Identifies e.user ∧ Identifies e.token
  | .remove user token => Identifies user ∧ Identifies token
  | .get user token => Identifies user ∧ Identifies token
  | .list user => Identifies user
  | .notify n => NotificationFits n
  | .status => True

/-- The resource that an operation addresses, as a server knows it. -/
def routeOf : Operation → Route
  | .add e => .device (identifierSegment e.user) (identifierSegment e.token)
  | .remove user token => .device (identifierSegment user) (identifierSegment token)
  | .get user token => .device (identifierSegment user) (identifierSegment token)
  | .list user => .devices (identifierSegment user)
  | .notify _ => .notify
  | .status => .status

/-- A request that carries out an operation arrives at the resource of the operation, with its
method and its body, and the body is within the limit of a server. -/
structure Arrival.CarriesOut (a : Arrival) (op : Operation) : Prop where
  route : Route.ofPath? a.path = some (routeOf op)
  method : a.method = op.method
  body : a.body = op.body
  fits : op.body.length ≤ bodyLimit

/-- The reply to an operation. -/
def Directory.reply (d : Directory) : Operation → Reply
  | .add e =>
    .document (if Directory.key e.user e.token ∈ d.keys then .ok else .created)
      (Device.toValue ⟨stripped e.user, stripped e.token, e.type⟩)
  | .remove user token =>
    if Directory.key user token ∈ d.keys then .bare .noContent else .deviceNotFound
  | .get user token =>
    match d.find? (Directory.key user token) with
    | some e => .document .ok e.toValue
    | none => .deviceNotFound
  | .list user => .document .ok (Device.listToValue (d.devices.filter (·.user = stripped user)))
  | .notify _ => .bare .ok
  | .status => .document .ok d.counters.toValue

/-! ### Handlers -/

variable {a : Arrival} {s : Store} {d : Directory}

/-- The document of an operation arrives as it was printed, within the limit. -/
theorem Arrival.CarriesOut.body_of_document? {op : Operation} {v : Json.Value}
    (h : a.CarriesOut op) (hdocument : op.document? = some v) :
    a.body = Utf8.ofString v.compact ∧ (Utf8.ofString v.compact).length ≤ bodyLimit := by
  have hbody : op.body = Utf8.ofString v.compact := Operation.body_of_document? hdocument
  rw [h.body, ← hbody]
  exact ⟨rfl, h.fits⟩

/-- A request to a device reaches the handler of its method with what is left of user and token. -/
theorem answer_device {user token : String} {op : Operation} (h : a.CarriesOut op)
    (hop : routeOf op = .device (identifierSegment user) (identifierSegment token)) :
    s.answer a = match op.method with
      | .get => (getDevice (stripped user) (stripped token) s, s)
      | .head => ((getDevice (stripped user) (stripped token) s).withoutBody, s)
      | .put => putDevice (stripped user) (stripped token) a.body s
      | .delete => deleteDevice (stripped user) (stripped token) s
      | _ => ({ Reply.bare .methodNotAllowed with allow := some (routeOf op).allowHeader }, s) := by
  rw [Store.answer, h.route, ← h.method, hop]
  exact serve_device (decodeString?_identifierSegment user) (decodeString?_identifierSegment token)

/-- A request to register a device. -/
theorem keeps_answer_add (hs : s.Keeps d) {e : Device} (h : a.CarriesOut (.add e)) :
    (s.answer a).1 = d.reply (.add e) ∧ (s.answer a).2.Keeps (d.next (.add e)) := by
  have hanswer : s.answer a = putDevice (stripped e.user) (stripped e.token) a.body s :=
    answer_device h rfl
  obtain ⟨hbody, hfits⟩ := h.body_of_document? rfl
  -- Server and directory agree on whether the device is there, and so on the status.
  have hstatus : (if s.registrations.contains (Directory.key e.user e.token) then Status.ok
      else .created) = if Directory.key e.user e.token ∈ d.keys then Status.ok else .created :=
    if_congr hs.contains_iff rfl rfl
  rw [Directory.key] at hstatus
  rw [hanswer, hbody, putDevice_compact _ _ hfits, hstatus]
  exact ⟨rfl, hs.put _⟩

/-- A request to remove a device. -/
theorem keeps_answer_remove (hs : s.Keeps d) {user token : String}
    (h : a.CarriesOut (.remove user token)) :
    (s.answer a).1 = d.reply (.remove user token) ∧
      (s.answer a).2.Keeps (d.next (.remove user token)) := by
  have hanswer : s.answer a = deleteDevice (stripped user) (stripped token) s :=
    answer_device h rfl
  rw [hanswer, deleteDevice]
  by_cases hkey : Directory.key user token ∈ d.keys
  · have hcontains := hs.contains_iff.mpr hkey
    rw [Directory.key] at hcontains
    rw [if_pos hcontains]
    simp only [Directory.reply, if_pos hkey]
    exact ⟨trivial, hs.remove hkey⟩
  · have hcontains := mt hs.contains_iff.mp hkey
    rw [Directory.key] at hcontains
    rw [if_neg hcontains]
    simp only [Directory.reply, if_neg hkey]
    refine ⟨trivial, ?_⟩
    rw [Directory.next, Directory.withdraw, if_neg hkey]
    exact hs

/-- A request for a device. -/
theorem keeps_answer_get (hs : s.Keeps d) {user token : String}
    (h : a.CarriesOut (.get user token)) :
    (s.answer a).1 = d.reply (.get user token) ∧
      (s.answer a).2.Keeps (d.next (.get user token)) := by
  have hanswer : s.answer a = (getDevice (stripped user) (stripped token) s, s) :=
    answer_device h rfl
  have hfind : s.registrations.find? (stripped user, stripped token)
      = d.find? (Directory.key user token) := hs.find?_eq
  rw [hanswer, getDevice, hfind]
  exact ⟨rfl, hs⟩

/-- A request for the devices of a user. -/
theorem keeps_answer_list (hs : s.Keeps d) {user : String} (h : a.CarriesOut (.list user)) :
    (s.answer a).1 = d.reply (.list user) ∧ (s.answer a).2.Keeps (d.next (.list user)) := by
  have hanswer : s.answer a = (listDevices (stripped user) s, s) := by
    rw [Store.answer, h.route]
    show (Route.devices (identifierSegment user)).serve a s = _
    rw [serve_devices (decodeString?_identifierSegment _), h.method]
    rfl
  rw [hanswer, listDevices, Registrations.ofUser, hs.devices]
  exact ⟨rfl, hs⟩

/-- A request with a notification. -/
theorem keeps_answer_notify (hs : s.Keeps d) {n : Notification} (hn : NotificationFits n)
    (h : a.CarriesOut (.notify n)) :
    (s.answer a).1 = d.reply (.notify n) ∧ (s.answer a).2.Keeps (d.next (.notify n)) := by
  have hmethod : a.method = .post := h.method
  obtain ⟨hbody, hfits⟩ := h.body_of_document? rfl
  obtain ⟨payload, hnotify, hreaches⟩ := notify_notification hn hfits s
  have hanswer : s.answer a = (.bare .ok, s.notify payload) := by
    rw [Store.answer, h.route]
    show Route.notify.serve a s = _
    unfold Route.serve
    rw [hmethod, hbody]
    exact hnotify
  rw [hanswer]
  exact ⟨rfl, hs.notify hreaches⟩

/-- A request for the counters. -/
theorem keeps_answer_status (hs : s.Keeps d) (h : a.CarriesOut .status) :
    (s.answer a).1 = d.reply .status ∧ (s.answer a).2.Keeps (d.next .status) := by
  have hmethod : a.method = .get := h.method
  have hanswer : s.answer a = (.document .ok s.status.toValue, s) := by
    rw [Store.answer, h.route]
    show Route.status.serve a s = _
    unfold Route.serve
    rw [hmethod]
  rw [hanswer, hs.counters]
  exact ⟨rfl, hs⟩

/-- A server that keeps a directory replies to an operation as the directory says, and then keeps
the next one. -/
theorem keeps_answer (hs : s.Keeps d) {op : Operation} (hop : Admissible op)
    (h : a.CarriesOut op) :
    (s.answer a).1 = d.reply op ∧ (s.answer a).2.Keeps (d.next op) := by
  cases op with
  | add e => exact keeps_answer_add hs h
  | remove user token => exact keeps_answer_remove hs h
  | get user token => exact keeps_answer_get hs h
  | list user => exact keeps_answer_list hs h
  | notify n => exact keeps_answer_notify hs hop h
  | status => exact keeps_answer_status hs h

end PushRegistry.Registry
