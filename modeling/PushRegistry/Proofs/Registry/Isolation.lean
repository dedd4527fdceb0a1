import PushRegistry.Proofs.Registry.History

/-!
# `PushRegistry.Proofs.Registry.Isolation`: users do not notice each other

A request is about a user if its path names the devices of that user or one of them, however the
path is encoded. Two memories agree on a user if they list the same devices for that user. A
request about somebody else keeps the list of a user (`ofUser_answer`), and a request about the
user is answered in the same way by two memories that agree, which agree afterwards
(`answer_same`). The main statement is `replies_about_user`: all that a user ever sees is what
that user would see as the only one.
-/

set_option autoImplicit false

namespace PushRegistry.Registry

open PushRegistry.Http (Method Status)
open PushRegistry.Session (serve)
open PushRegistry.Text

/-- The user that a request is about, if its path names the devices of a user or one of them. -/
def Arrival.user? (a : Arrival) : Option String :=
  match Route.ofPath? a.path with
  | some (.devices user) => Percent.decodeString? user
  | some (.device user _) => Percent.decodeString? user
  | _ => none

/-- The answers to the requests that are about a user. -/
def repliesAbout (user : String) (arrivals : List Arrival) (replies : List Reply) : List Reply :=
  ((arrivals.zip replies).filter fun p => p.1.user? = some user).map Prod.snd

variable {s s' : Store} {a : Arrival} {user : String} {key : String × String}

/-- Whoever names a device names its user. -/
theorem user?_of_namesDevice (h : a.NamesDevice key) : a.user? = some key.1 := by
  obtain ⟨user, token, hroute, hu, -⟩ := h
  rw [Arrival.user?, hroute]
  exact hu

/-! ### Requests about somebody else -/

/-- A request that is not about a user keeps the devices of that user. -/
theorem ofUser_answer (h : a.user? ≠ some user) :
    (s.answer a).2.registrations.ofUser user = s.registrations.ofUser user := by
  have hother : ∀ key, a.NamesDevice key → key.1 ≠ user := fun key hkey heq =>
    h ((user?_of_namesDevice hkey).trans (congrArg some heq))
  -- Only a registration and a removal touch the devices, and both name their user.
  have heffect := effect_answer s a
  generalize s.answer a = answer at heffect ⊢
  cases heffect with
  | kept => rfl
  | registered _ hkey => exact Registrations.ofUser_insert_of_ne (hother _ hkey)
  | removed _ hkey => exact Registrations.ofUser_erase_of_ne (hother _ hkey)
  | notified => rfl

/-! ### Requests about the user -/

/-- Two memories list the same devices for a user. -/
def Agree (user : String) (s s' : Store) : Prop :=
  s.registrations.ofUser user = s'.registrations.ofUser user

/-- Two answers are the same for a user: the replies are equal and the memories agree. -/
structure Same (user : String) (x x' : Reply × Store) : Prop where
  reply : x.1 = x'.1
  agree : Agree user x.2 x'.2

theorem listDevices_same (h : Agree user s s') : listDevices user s = listDevices user s' := by
  rw [listDevices, h, listDevices]

theorem getDevice_same (h : Agree user s s') (token : String) :
    getDevice user token s = getDevice user token s' := by
  rw [getDevice, Registrations.find?_congr h, getDevice]

theorem putDevice_same (h : Agree user s s') (token : String) (body : List UInt8) :
    Same user (putDevice user token body s) (putDevice user token body s') := by
  unfold putDevice
  cases bodyRefusal? body with
  | some refusal => exact ⟨rfl, h⟩
  | none =>
      cases Device.decode body with
      | error fault => exact ⟨rfl, h⟩
      | ok given =>
          have hcontains := Registrations.contains_congr h token
          refine ⟨?_, Registrations.ofUser_insert_congr h _⟩
          show Reply.document (if s.registrations.contains (user, token) then _ else _) _ = _
          rw [hcontains]
          rfl

theorem deleteDevice_same (h : Agree user s s') (token : String) :
    Same user (deleteDevice user token s) (deleteDevice user token s') := by
  unfold deleteDevice
  rw [Registrations.contains_congr h token]
  by_cases hthere : s'.registrations.contains (user, token) = true
  · rw [if_pos hthere, if_pos hthere]
    exact ⟨rfl, Registrations.ofUser_erase_congr h _⟩
  · rw [if_neg hthere, if_neg hthere]
    exact ⟨rfl, h⟩

/-- A request about a user is answered from the devices of that user. -/
theorem answer_same (h : Agree user s s') (ha : a.user? = some user) :
    Same user (s.answer a) (s'.answer a) := by
  unfold Arrival.user? at ha
  split at ha
  · next encoded hroute =>
    rw [answer_of_route hroute, answer_of_route hroute, serve_devices ha, serve_devices ha,
      listDevices_same h]
    cases a.method <;> exact ⟨rfl, h⟩
  · next encoded encodedToken hroute =>
    rw [answer_of_route hroute, answer_of_route hroute]
    cases ht : Percent.decodeString? encodedToken with
    | none =>
        -- The user is known and the token is not, so the refusal says the same in both.
        rw [serve_device_of_token_undecodable ha ht, serve_device_of_token_undecodable ha ht]
        cases a.method <;> exact ⟨rfl, h⟩
    | some token =>
        rw [serve_device ha ht, serve_device ha ht, getDevice_same h]
        cases a.method with
        | put => exact putDevice_same h token a.body
        | delete => exact deleteDevice_same h token
        | get => exact ⟨rfl, h⟩
        | head => exact ⟨rfl, h⟩
        | post => exact ⟨rfl, h⟩
        | other name => exact ⟨rfl, h⟩
  · cases ha

/-! ### Runs -/

theorem repliesAbout_cons (user : String) (a : Arrival) (rest : List Arrival) (r : Reply)
    (replies : List Reply) :
    repliesAbout user (a :: rest) (r :: replies)
      = (if a.user? = some user then [r] else []) ++ repliesAbout user rest replies := by
  unfold repliesAbout
  rw [List.zip_cons_cons, List.filter_cons]
  by_cases h : a.user? = some user
  · rw [if_pos (decide_eq_true h), if_pos h]
    rfl
  · rw [if_neg (by simpa using h), if_neg h]
    rfl

/-- Two servers whose memories agree on a user give the same answers about that user, also when
only one of them gets the other requests. Induction on the requests, for all memories that
agree. -/
theorem repliesAbout_serve (arrivals : List Arrival) (user : String) (server server' : Server)
    (h : Agree user server.store server'.store) :
    repliesAbout user arrivals (serve arrivals server).1
      = (serve (arrivals.filter fun a => a.user? = some user) server').1 := by
  induction arrivals generalizing server server' with
  | nil => rfl
  | cons a rest ih =>
      rw [serve_cons, repliesAbout_cons]
      by_cases ha : a.user? = some user
      -- Both servers get the request, or only the first one does and keeps what the user has.
      · have hsame : Same user (server.store.answer a) (server'.store.answer a) := answer_same h ha
        rw [if_pos ha, List.filter_cons, if_pos (decide_eq_true ha), serve_cons,
          List.singleton_append, ih (server.handle a).2 (server'.handle a).2 hsame.agree]
        exact congrArg (· :: _) hsame.reply
      · have hkept : Agree user (server.handle a).2.store server'.store :=
          (ofUser_answer ha).trans h
        rw [if_neg ha, List.filter_cons, if_neg (by simpa using ha), List.nil_append,
          ih (server.handle a).2 server' hkept]

/-- The answers to the requests about a user are those that the server would have given if there
had been no other requests: nothing that happens for other users, and neither notifications nor
questions for the status, can be told from them. The requests are arbitrary, and so are their
methods and the way their paths are encoded. -/
theorem replies_about_user (arrivals : List Arrival) (user : String) :
    repliesAbout user arrivals (serve arrivals Server.fresh).1
      = (serve (arrivals.filter fun a => a.user? = some user) Server.fresh).1 :=
  repliesAbout_serve arrivals user Server.fresh Server.fresh rfl

end PushRegistry.Registry
