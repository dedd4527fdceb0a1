import Mathlib.Algebra.Ring.Nat
import PushRegistry.Proofs.Registry.History
import PushRegistry.Proofs.Registry.Keeping

/-!
# `PushRegistry.Proofs.Registry.Counting`: what the counters of a server count

`handled` lists the requests of a run with the replies to them and with what the server had in
memory when each of them came. `Counted s hs` says that the memory `s` agrees with such a list:
each counter is a number of answers, and the counters of notified devices add up the devices that
were there and matched when a notification was accepted. `Counted.answer` is the step, one case
for each `Effect` of a request, and `counters_of_handled` is the law for all runs of a server that
has just started.

Counters are natural numbers here, so the law has no condition. A server that counts in 64-bit
words agrees with it for as long as no counter has reached 2⁶⁴, which needs 2³³ requests at least
(`Proofs/Registry/Limits.lean`).
-/

set_option autoImplicit false

namespace PushRegistry

/-- The count of one platform. -/
def NotifiedCounts.ofType (c : NotifiedCounts) : DeviceType → Nat
  | .ios => c.aps
  | .c2dm => c.c2dm
  | .gcm => c.gcm

namespace Registry

open PushRegistry.Http (Method Status)
open PushRegistry.Session (serve)

/-! ### Whom a notification matches -/

/-- A string is among the items of a list in a payload. -/
def Lists (payload : Json.Value) (name s : String) : Prop :=
  ∃ items, payload.member? name = some (.array items) ∧ Json.Value.string s ∈ items

theorem lists_iff {payload : Json.Value} {name s : String} :
    Store.lists payload name s = true ↔ Lists payload name s := by
  have hstring : ∀ item : Json.Value, (item.string? == some s) = true ↔ item = .string s := by
    intro item
    cases item <;> simp [Json.Value.string?]
  unfold Store.lists Lists
  cases hmember : payload.member? name with
  | none => simp
  | some value =>
      cases value with
      | array items =>
          simp only [List.any_eq_true, hstring, Option.some.injEq, Json.Value.array.injEq]
          constructor
          · rintro ⟨item, hitem, rfl⟩
            exact ⟨items, rfl, hitem⟩
          · rintro ⟨items', rfl, hs⟩
            exact ⟨_, hs, rfl⟩
      | null => simp
      | bool b => simp
      | number n => simp
      | string t => simp
      | object members => simp

/-- A payload lists the user or the token of a device. -/
def Matches (payload : Json.Value) (d : Device) : Prop :=
  Lists payload "users" d.user ∨ Lists payload "devices" d.token

theorem reaches_iff {payload : Json.Value} {d : Device} :
    Store.reaches payload d = true ↔ Matches payload d := by
  rw [Store.reaches, Bool.or_eq_true, lists_iff, lists_iff, Matches]

instance (payload : Json.Value) (d : Device) : Decidable (Matches payload d) :=
  decidable_of_iff _ reaches_iff

theorem reaches_eq_decide (payload : Json.Value) (d : Device) :
    Store.reaches payload d = decide (Matches payload d) := by
  rw [Bool.eq_iff_iff, reaches_iff, decide_eq_true_iff]

/-- Accepting a payload adds the matching devices of each type to the count of that type. -/
theorem ofType_notify (s : Store) (payload : Json.Value) (type : DeviceType) :
    (s.notify payload).status.devicesNotified.ofType type
      = s.status.devicesNotified.ofType type
        + s.registrations.entries.countP fun d => d.type = type ∧ Matches payload d := by
  have hfold : (s.notify payload).status.devicesNotified
      = (((s.registrations.entries.filter (Store.reaches payload)).map Device.type).foldl
          Store.countNotified s.status.devicesNotified) := rfl
  rw [hfold, Store.Keeps.foldl_countNotified]
  cases type <;> simp [NotifiedCounts.ofType, List.countP_filter, reaches_eq_decide]

/-! ### What a registration counts -/

namespace Store

variable (s : Store) (d : Device)

theorem registrations_put : (s.put d).registrations = s.registrations.insert d := rfl

theorem notifications_put : (s.put d).notifications = s.notifications := rfl

theorem devicesAdded_put : (s.put d).status.devicesAdded
    = s.status.devicesAdded + if s.registrations.contains d.key then 0 else 1 := by
  unfold put
  split <;> rfl

theorem devicesUpdated_put : (s.put d).status.devicesUpdated
    = s.status.devicesUpdated + if s.registrations.contains d.key then 1 else 0 := by
  unfold put
  split <;> rfl

theorem devicesRemoved_put : (s.put d).status.devicesRemoved = s.status.devicesRemoved := by
  unfold put
  split <;> rfl

theorem devicesNotified_put : (s.put d).status.devicesNotified = s.status.devicesNotified := by
  unfold put
  split <;> rfl

end Store

/-! ### Answered requests -/

/-- A request that a server has answered, with what was in its memory before. -/
structure Handled where
  store : Store
  arrival : Arrival
  reply : Reply

/-- The requests of a run, each with the memory that it met and the reply that it got. -/
def handled : List Arrival → Server → List Handled
  | [], _ => []
  | a :: rest, server => ⟨server.store, a, (server.handle a).1⟩ :: handled rest (server.handle a).2

namespace Handled

/-- A request with the given method was answered with the given status. -/
def Answered (h : Handled) (method : Method) (status : Status) : Prop :=
  h.arrival.method = method ∧ h.reply.status = status

instance (h : Handled) (method : Method) (status : Status) : Decidable (h.Answered method status) :=
  inferInstanceAs (Decidable (_ ∧ _))

/-- A notification was sent and accepted. -/
def Accepted (h : Handled) : Prop :=
  Route.ofPath? h.arrival.path = some .notify ∧ h.Answered .post .ok

instance (h : Handled) : Decidable h.Accepted := inferInstanceAs (Decidable (_ ∧ _))

/-- A device matches the payload in the body of a request. -/
def Reaches (h : Handled) (d : Device) : Prop :=
  ∃ payload, Json.Value.decode h.arrival.body = .ok payload ∧ Matches payload d

instance (h : Handled) (d : Device) : Decidable (h.Reaches d) :=
  match hbody : Json.Value.decode h.arrival.body with
  | .error _ => .isFalse (by simp [Reaches, hbody])
  | .ok payload => decidable_of_iff (Matches payload d) (by simp [Reaches, hbody])

/-- How many devices of a type were there and matched when a notification was accepted. -/
def notified (h : Handled) (type : DeviceType) : Nat :=
  if h.Accepted then h.store.registrations.entries.countP fun d => d.type = type ∧ h.Reaches d
  else 0

/-- An answer has one method and one status. -/
theorem Answered.eq {h : Handled} {method method' : Method} {status status' : Status}
    (hold : h.Answered method status) (hnew : h.Answered method' status') :
    method = method' ∧ status = status' :=
  ⟨hold.1.symm.trans hnew.1, hold.2.symm.trans hnew.2⟩

end Handled

/-! ### Counters and answers -/

/-- The counters and the lists of a server are what its answers add up to. -/
structure Counted (s : Store) (hs : List Handled) : Prop where
  added : s.status.devicesAdded = hs.countP (·.Answered .put .created)
  updated : s.status.devicesUpdated = hs.countP (·.Answered .put .ok)
  removed : s.status.devicesRemoved = hs.countP (·.Answered .delete .noContent)
  stored : s.status.devicesRemoved + s.registrations.entries.length = s.status.devicesAdded
  accepted : s.notifications.length = hs.countP (·.Accepted)
  notified : ∀ type, s.status.devicesNotified.ofType type = (hs.map (·.notified type)).sum

theorem countP_concat {p : Handled → Prop} [DecidablePred p] (hs : List Handled) (h : Handled) :
    (hs ++ [h]).countP p = hs.countP p + if p h then 1 else 0 := by
  simp [List.countP_append, List.countP_singleton]

theorem sum_concat (hs : List Handled) (h : Handled) (f : Handled → Nat) :
    ((hs ++ [h]).map f).sum = (hs.map f).sum + f h := by
  simp

namespace Counted

variable {s : Store} {hs : List Handled} {h : Handled}

theorem empty : Counted Store.empty [] :=
  ⟨rfl, rfl, rfl, rfl, rfl, fun type => by cases type <;> rfl⟩

/-- An answer that counts nowhere leaves all counters alone. -/
theorem kept (hc : Counted s hs) (hput : ¬ h.Answered .put .created) (hput' : ¬ h.Answered .put .ok)
    (hdelete : ¬ h.Answered .delete .noContent) (haccepted : ¬ h.Accepted) :
    Counted s (hs ++ [h]) where
  added := by rw [countP_concat, if_neg hput, hc.added, Nat.add_zero]
  updated := by rw [countP_concat, if_neg hput', hc.updated, Nat.add_zero]
  removed := by rw [countP_concat, if_neg hdelete, hc.removed, Nat.add_zero]
  stored := hc.stored
  accepted := by rw [countP_concat, if_neg haccepted, hc.accepted, Nat.add_zero]
  notified type := by rw [sum_concat, Handled.notified, if_neg haccepted, hc.notified, Nat.add_zero]

/-- A registration counts as added if its key is new and as updated if not. -/
theorem put (hc : Counted s hs) {d : Device}
    (hanswer : h.Answered .put (if s.registrations.contains d.key then .ok else .created)) :
    Counted (s.put d) (hs ++ [h]) := by
  have hcreated : h.Answered .put .created ↔ ¬ s.registrations.contains d.key = true := by
    by_cases hkey : s.registrations.contains d.key = true
    · rw [if_pos hkey] at hanswer
      exact iff_of_false (fun hp => absurd (hanswer.eq hp).2 (by decide)) (not_not_intro hkey)
    · rw [if_neg hkey] at hanswer
      exact iff_of_true hanswer hkey
  have hok : h.Answered .put .ok ↔ s.registrations.contains d.key = true := by
    by_cases hkey : s.registrations.contains d.key = true
    · rw [if_pos hkey] at hanswer
      exact iff_of_true hanswer hkey
    · rw [if_neg hkey] at hanswer
      exact iff_of_false (fun hp => absurd (hanswer.eq hp).2 (by decide)) hkey
  have hdelete : ¬ h.Answered .delete .noContent := fun hd => by cases (hanswer.eq hd).1
  have haccepted : ¬ h.Accepted := fun ha => by cases (hanswer.eq ha.2).1
  have hstored := hc.stored
  constructor
  · rw [Store.devicesAdded_put, hc.added, countP_concat, if_congr hcreated rfl rfl, ite_not]
  · rw [Store.devicesUpdated_put, hc.updated, countP_concat, if_congr hok rfl rfl]
  · rw [Store.devicesRemoved_put, hc.removed, countP_concat, if_neg hdelete, Nat.add_zero]
  · rw [Store.devicesRemoved_put, Store.devicesAdded_put, Store.registrations_put,
      Registrations.length_insert]
    omega
  · rw [Store.notifications_put, hc.accepted, countP_concat, if_neg haccepted, Nat.add_zero]
  · intro type
    rw [Store.devicesNotified_put, hc.notified, sum_concat, Handled.notified, if_neg haccepted,
      Nat.add_zero]

/-- A removal counts as removed, and there is one device less. -/
theorem remove (hc : Counted s hs) {key : String × String}
    (hthere : s.registrations.contains key = true) (hanswer : h.Answered .delete .noContent) :
    Counted (s.remove key) (hs ++ [h]) := by
  have hput : ∀ status, ¬ h.Answered .put status := fun _ hp => by cases (hanswer.eq hp).1
  have haccepted : ¬ h.Accepted := fun ha => by cases (hanswer.eq ha.2).1
  have hlength : (s.remove key).registrations.entries.length + 1 = s.registrations.entries.length :=
    Registrations.length_erase (Registrations.contains_iff.mp hthere)
  have hstored := hc.stored
  constructor
  · rw [countP_concat, if_neg (hput _), Nat.add_zero]
    exact hc.added
  · rw [countP_concat, if_neg (hput _), Nat.add_zero]
    exact hc.updated
  · rw [countP_concat, if_pos hanswer, ← hc.removed]
    rfl
  · show s.status.devicesRemoved + 1 + (s.remove key).registrations.entries.length
      = s.status.devicesAdded
    omega
  · rw [countP_concat, if_neg haccepted, Nat.add_zero]
    exact hc.accepted
  · intro type
    rw [sum_concat, Handled.notified, if_neg haccepted, ← hc.notified]
    rfl

/-- A notification counts the devices that it matches, and is kept. -/
theorem notify (hc : Counted s hs) {a : Arrival} {reply : Reply} {payload : Json.Value}
    (haccepted : Handled.Accepted ⟨s, a, reply⟩) (hbody : Json.Value.decode a.body = .ok payload) :
    Counted (s.notify payload) (hs ++ [⟨s, a, reply⟩]) := by
  have hother : ∀ method status, method ≠ .post →
      ¬ Handled.Answered ⟨s, a, reply⟩ method status := fun _ _ hm ho =>
    hm (ho.eq haccepted.2).1
  have hreaches : ∀ d, Handled.Reaches ⟨s, a, reply⟩ d ↔ Matches payload d := by
    intro d
    simp [Handled.Reaches, hbody]
  constructor
  · rw [countP_concat, if_neg (hother _ _ (by decide)), Nat.add_zero]
    exact hc.added
  · rw [countP_concat, if_neg (hother _ _ (by decide)), Nat.add_zero]
    exact hc.updated
  · rw [countP_concat, if_neg (hother _ _ (by decide)), Nat.add_zero]
    exact hc.removed
  · exact hc.stored
  · rw [countP_concat, if_pos haccepted, ← hc.accepted]
    exact List.length_append
  · intro type
    rw [ofType_notify, sum_concat, Handled.notified, if_pos haccepted, ← hc.notified]
    simp only [hreaches]

/-- An answered request keeps the counters in agreement with the answers: one case for each effect
that it can have. -/
theorem answer (hc : Counted s hs) (a : Arrival) :
    Counted (s.answer a).2 (hs ++ [⟨s, a, (s.answer a).1⟩]) := by
  have heffect := effect_answer s a
  generalize s.answer a = answered at heffect
  cases heffect with
  | @kept reply hread =>
      -- A success with a method that changes something is no reading.
      have hnot : ∀ method status, status.isSuccess = true → method ≠ .get → method ≠ .head →
          ¬ Handled.Answered ⟨s, a, reply⟩ method status := by
        rintro method status hsuccess hget hhead ⟨rfl, rfl⟩
        rcases hread hsuccess with hmethod | hmethod
        · exact hget hmethod
        · exact hhead hmethod
      refine hc.kept (hnot _ _ rfl ?_ ?_) (hnot _ _ rfl ?_ ?_) (hnot _ _ rfl ?_ ?_)
        (fun ha => hnot _ _ rfl ?_ ?_ ha.2) <;> decide
  | registered hmethod hkey hbody => exact hc.put ⟨hmethod, rfl⟩
  | removed hmethod hkey hthere => exact hc.remove hthere ⟨hmethod, rfl⟩
  | notified hmethod hroute hbody hparts => exact hc.notify ⟨hroute, hmethod, rfl⟩ hbody

end Counted

/-! ### Runs -/

/-- A run keeps the counters in agreement with the answers. Induction on the requests, for all
servers and all that they answered before. -/
theorem counted_serve (arrivals : List Arrival) (server : Server) (hs : List Handled)
    (hc : Counted server.store hs) :
    Counted (serve arrivals server).2.store (hs ++ handled arrivals server) := by
  induction arrivals generalizing server hs with
  | nil =>
      rw [handled, List.append_nil]
      exact hc
  | cons a rest ih =>
      rw [handled, List.append_cons]
      exact ih (server.handle a).2 _ (hc.answer a)

/-- The requests and replies of a run are those that were handled. -/
theorem map_handled (arrivals : List Arrival) (server : Server) :
    (handled arrivals server).map (fun h => (h.arrival, h.reply))
      = arrivals.zip (serve arrivals server).1 := by
  induction arrivals generalizing server with
  | nil => rfl
  | cons a rest ih => rw [handled, List.map_cons, ih, serve_cons, List.zip_cons_cons]

/-- The counters of a server after any requests, in any order, follow from its answers. Devices were
added as often as it said that it created one, updated as often as a registration was answered
with 200, and removed as often as a removal was answered with 204; no more were removed than
added, and the difference is the number of devices that it has. It keeps one notification for
each that it accepted, and the devices that were notified on a platform are those of that
platform that were there and matched at the time, added up over the accepted notifications. -/
theorem counters_of_handled (arrivals : List Arrival) :
    let s := (serve arrivals Server.fresh).2.store
    let hs := handled arrivals Server.fresh
    hs.map (fun h => (h.arrival, h.reply)) = arrivals.zip (serve arrivals Server.fresh).1 ∧
      s.status.devicesAdded = hs.countP (·.Answered .put .created) ∧
      s.status.devicesUpdated = hs.countP (·.Answered .put .ok) ∧
      s.status.devicesRemoved = hs.countP (·.Answered .delete .noContent) ∧
      s.status.devicesRemoved ≤ s.status.devicesAdded ∧
      s.status.devicesAdded - s.status.devicesRemoved = s.registrations.entries.length ∧
      s.notifications.length = hs.countP (·.Accepted) ∧
      ∀ type, s.status.devicesNotified.ofType type = (hs.map (·.notified type)).sum := by
  intro s hs
  have hc : Counted s hs := counted_serve arrivals Server.fresh [] .empty
  have hstored := hc.stored
  refine ⟨map_handled arrivals Server.fresh, hc.added, hc.updated, hc.removed, ?_, ?_, hc.accepted,
    hc.notified⟩
  · omega
  · omega

end Registry

end PushRegistry
