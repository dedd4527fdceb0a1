import PushRegistry.Proofs.Json.Printers
import PushRegistry.Proofs.Registry.Directory
import PushRegistry.Registry.Server

/-!
# `PushRegistry.Proofs.Registry.Payload`: what a server makes of a notification

A client sends a notification as one document, and the server reads that document without any
schema. `readsBack_notification` says what it finds under each name, and `notify_notification` that
it accepts the document and reaches the devices that the notification addresses.
-/

set_option autoImplicit false

namespace PushRegistry.Registry

open PushRegistry.Json
open PushRegistry.Text
open PushRegistry.Registry.Directory (Addresses)

/-- The payloads of a notification hold 64-bit integers as their only numbers, and with the
document around them no more brackets are open inside each other than can be read. -/
def NotificationFits (n : Notification) : Prop :=
  ∀ payload ∈ [n.aps, n.c2dm, n.gcm], Fits (Reader.depthLimit - 1) (.object payload)

instance (n : Notification) : Decidable (NotificationFits n) :=
  inferInstanceAs (Decidable (∀ payload ∈ _, Fits _ _))

/-- The members of the document of a notification. -/
def notificationMembers (n : Notification) : List (String × Value) :=
  [("aps", .object n.aps), ("c2dm", .object n.c2dm), ("gcm", .object n.gcm),
    ("users", .array (n.users.map .string)), ("devices", .array (n.devices.map .string))] ++
  (n.collapseKey.map fun key => ("collapse_key", Value.string key)).toList

variable {n : Notification}

theorem nodup_notificationMembers : ((notificationMembers n).map Prod.fst).Nodup := by
  unfold notificationMembers
  cases n.collapseKey with
  | none =>
      show ["aps", "c2dm", "gcm", "users", "devices"].Nodup
      decide
  | some key =>
      show ["aps", "c2dm", "gcm", "users", "devices", "collapse_key"].Nodup
      decide

theorem fits_strings (k : Nat) (names : List String) :
    Fits (k + 1) (.array (names.map .string)) := by
  intro v hv
  obtain ⟨name, -, rfl⟩ := List.mem_map.mp hv
  cases k <;> exact trivial

/-- Besides the payloads a notification holds only strings. -/
theorem fits_notificationMembers (h : NotificationFits n) :
    ∀ p ∈ notificationMembers n, Fits (Reader.depthLimit - 1) p.2 := by
  intro p hp
  rcases List.mem_append.mp hp with hp | hp
  · simp only [List.mem_cons, List.not_mem_nil, or_false] at hp
    rcases hp with rfl | rfl | rfl | rfl | rfl
    · exact h n.aps (by simp)
    · exact h n.c2dm (by simp)
    · exact h n.gcm (by simp)
    · exact fits_strings 125 n.users
    · exact fits_strings 125 n.devices
  · cases hkey : n.collapseKey with
    | none => simp [hkey] at hp
    | some key =>
        obtain rfl : p = ("collapse_key", Value.string key) := by simpa [hkey] using hp
        exact trivial

/-- The members of a printed notification are found under their names. -/
theorem readsBack_notification (h : NotificationFits n) :
    ∃ payload, ReadsBack Value.decode n.toValue payload ∧
      ∀ name, payload.member? name = (notificationMembers n).lookup name :=
  ⟨_, Value.readsBack_object (fits_notificationMembers h),
    Members.get?_ofList nodup_notificationMembers⟩

/-- A member that is a list of strings holds a string if the list does. -/
theorem lists_of_member? {payload : Value} {name : String} {names : List String}
    (h : payload.member? name = some (.array (names.map .string))) (s : String) :
    Store.lists payload name s = decide (s ∈ names) := by
  have hstring : ∀ name : String, ((Value.string name).string? == some s) = decide (name = s) := by
    intro name
    by_cases hname : name = s <;> simp [Value.string?, hname]
  unfold Store.lists
  rw [h]
  simp only [List.any_map, Function.comp_def, hstring]
  rw [Bool.eq_iff_iff, List.any_eq_true, decide_eq_true_iff]
  constructor
  · rintro ⟨name, hname, heq⟩
    exact of_decide_eq_true heq ▸ hname
  · intro hs
    exact ⟨s, hs, decide_eq_true rfl⟩

/-- A server accepts a notification within the limit, and its payload reaches the devices that the
notification addresses. -/
theorem notify_notification (h : NotificationFits n)
    (hlength : (Utf8.ofString n.toValue.compact).length ≤ bodyLimit) (s : Store) :
    ∃ payload, notify (Utf8.ofString n.toValue.compact) s = (.bare .ok, s.notify payload) ∧
      ∀ d, Store.reaches payload d = decide (Addresses n d) := by
  obtain ⟨payload, hread, hmember⟩ := readsBack_notification h
  refine ⟨payload, ?_, ?_⟩
  · -- The body is text, it is a document, and all five parts are in it.
    have hread' : bodyRefusal? (Utf8.ofString n.toValue.compact) = none :=
      bodyRefusal?_eq_none_iff.mpr ⟨hlength, Utf8.fault?_encode _⟩
    have hpayload : isPayload payload = true := by
      simp only [isPayload, hmember]
      rfl
    unfold notify
    rw [hread']
    simp only [hread.compact, hpayload, if_true]
  · intro d
    rw [Store.reaches, lists_of_member? (hmember "users"), lists_of_member? (hmember "devices")]
    exact (Bool.decide_or _ _).symm

end PushRegistry.Registry
