import Mathlib.Data.List.Nodup
import PushRegistry.Client.Operation
import PushRegistry.Proofs.Url.Addressing
import PushRegistry.Proofs.WireFormat
import PushRegistry.Registry.Registrations

/-!
# `PushRegistry.Proofs.Registry.Directory`: what the operations mean

A `Directory` is a list of devices with pairwise different keys, together with the counters of
what was done to it. It knows nothing of URLs, requests or documents. `Directory.result` says
what an operation returns and `Directory.next` what it leaves behind. An identifier names what is
left of it in a URL, which is `stripped` of it.

The counters never outgrow the operations that were performed (`Bounded.next`), so those of fewer
than 2³² operations are 64-bit words (`Bounded.fitsWords`).
-/

set_option autoImplicit false

namespace PushRegistry.Registry

open PushRegistry.Client (Operation Failure)
open PushRegistry.ServerAddress (stripped)

/-- A list of devices with pairwise different keys, and the counters of what was done to it. -/
structure Directory where
  devices : List Device
  counters : ServerStatus
  nodup : (devices.map Device.key).Nodup

namespace Directory

theorem nodup_map_key_nil : (([] : List Device).map Device.key).Nodup := List.nodup_nil

/-- Nothing is listed and nothing was done. -/
def empty : Directory := ⟨[], ServerStatus.zero, nodup_map_key_nil⟩

/-- The keys of the devices, in the order of the list. -/
def keys (d : Directory) : List (String × String) := d.devices.map Device.key

instance (d : Directory) (key : String × String) : Decidable (key ∈ d.keys) :=
  inferInstanceAs (Decidable (key ∈ d.devices.map Device.key))

/-- The device with a key. -/
def find? (d : Directory) (key : String × String) : Option Device :=
  d.devices.find? (·.key = key)

/-! ### Changes -/

/-- The device `e` after the type of the device with a key was set. -/
def retype (key : String × String) (type : DeviceType) (e : Device) : Device :=
  if e.key = key then { e with type := type } else e

theorem key_retype (key : String × String) (type : DeviceType) (e : Device) :
    (retype key type e).key = e.key := by
  unfold retype
  split
  · rfl
  · rfl

theorem map_key_retype (key : String × String) (type : DeviceType) (es : List Device) :
    (es.map (retype key type)).map Device.key = es.map Device.key := by
  rw [List.map_map]
  exact List.map_congr_left fun e _ => key_retype key type e

/-- Sets the type of a device that is listed, where it stands, or lists the device at the end. -/
def register (d : Directory) (e : Device) : Directory :=
  if h : e.key ∈ d.keys then
    { devices := d.devices.map (retype e.key e.type)
      counters := { d.counters with devicesUpdated := d.counters.devicesUpdated + 1 }
      nodup := by
        rw [map_key_retype]
        exact d.nodup }
  else
    { devices := d.devices ++ [e]
      counters := { d.counters with devicesAdded := d.counters.devicesAdded + 1 }
      nodup := by
        rw [List.map_append]
        exact List.Nodup.append d.nodup (List.nodup_singleton _) (List.disjoint_singleton.mpr h) }

/-- Takes the device with a key off the list, if it is there. -/
def withdraw (d : Directory) (key : String × String) : Directory :=
  if key ∈ d.keys then
    { devices := d.devices.filter (·.key ≠ key)
      counters := { d.counters with devicesRemoved := d.counters.devicesRemoved + 1 }
      nodup := d.nodup.sublist (List.filter_sublist.map _) }
  else d

/-- A notification addresses a device by its user or by its token. -/
def Addresses (n : Notification) (e : Device) : Prop := e.user ∈ n.users ∨ e.token ∈ n.devices

instance (n : Notification) (e : Device) : Decidable (Addresses n e) :=
  inferInstanceAs (Decidable (e.user ∈ n.users ∨ e.token ∈ n.devices))

/-- How many devices of a type a notification addresses. A device counts once. -/
def reached (d : Directory) (n : Notification) (type : DeviceType) : Nat :=
  (d.devices.filter fun e => Addresses n e).countP fun e => e.type = type

/-- Counts the devices that a notification addresses. -/
def announce (d : Directory) (n : Notification) : Directory :=
  { d with counters := { d.counters with devicesNotified :=
    { aps := d.counters.devicesNotified.aps + d.reached n .ios
      c2dm := d.counters.devicesNotified.c2dm + d.reached n .c2dm
      gcm := d.counters.devicesNotified.gcm + d.reached n .gcm } } }

/-! ### Operations -/

/-- The failure that reports a missing device. -/
def missing : Failure :=
  .remote ⟨.notFound, "The device could not be found.", some "PostalDeviceError", some 1⟩

/-- The key that a user and a token name in a URL. -/
def key (user token : String) : String × String := (stripped user, stripped token)

/-- What an operation returns. -/
def result (d : Directory) : (op : Operation) → Except Failure op.Result
  | .add e => .ok ⟨stripped e.user, stripped e.token, e.type⟩
  | .remove user token => if key user token ∈ d.keys then .ok () else .error missing
  | .get user token =>
    match d.find? (key user token) with
    | some e => .ok e
    | none => .error missing
  | .list user => .ok (d.devices.filter (·.user = stripped user))
  | .notify _ => .ok ()
  | .status => .ok d.counters

/-- What an operation leaves behind. -/
def next (d : Directory) : Operation → Directory
  | .add e => d.register ⟨stripped e.user, stripped e.token, e.type⟩
  | .remove user token => d.withdraw (key user token)
  | .notify n => d.announce n
  | _ => d

/-- The results of operations, one after the other. -/
def results : Directory → List Operation → List ((op : Operation) × Except Failure op.Result)
  | _, [] => []
  | d, op :: rest => ⟨op, d.result op⟩ :: (d.next op).results rest

/-- The only failure is that a device is missing. -/
theorem isNotFound_of_result {d : Directory} {op : Operation} {failure : Failure}
    (h : d.result op = .error failure) : failure.isNotFound = true := by
  have hmissing : ∀ {α : Type}, (Except.error missing : Except Failure α) = .error failure →
      failure.isNotFound = true := by
    rintro α ⟨⟩
    rfl
  cases op with
  | add e => cases h
  | remove user token =>
      by_cases hkey : key user token ∈ d.keys
      · simp only [result, if_pos hkey] at h
        cases h
      · simp only [result, if_neg hkey] at h
        exact hmissing h
  | get user token =>
      simp only [result] at h
      cases hfind : d.find? (key user token) with
      | some e =>
          rw [hfind] at h
          cases h
      | none =>
          rw [hfind] at h
          exact hmissing h
  | list user => cases h
  | notify n => cases h
  | status => cases h

/-! ### Counters -/

/-- The list and the counters have not outgrown a number of operations. -/
structure Bounded (d : Directory) (n : Nat) : Prop where
  devices : d.devices.length ≤ n
  changes : d.counters.devicesAdded + d.counters.devicesRemoved + d.counters.devicesUpdated ≤ n
  notified : d.counters.devicesNotified.total ≤ n * n

variable {d : Directory} {n : Nat}

theorem Bounded.mono {m : Nat} (h : d.Bounded n) (hm : n ≤ m) : d.Bounded m where
  devices := h.devices.trans hm
  changes := h.changes.trans hm
  notified := h.notified.trans (Nat.mul_le_mul hm hm)

theorem Bounded.register (h : d.Bounded n) (e : Device) : (d.register e).Bounded (n + 1) := by
  have hdevices := h.devices
  have hchanges := h.changes
  have hnotified := (h.mono (Nat.le_succ n)).notified
  unfold Directory.register
  split
  · refine ⟨?_, ?_, hnotified⟩
    · show (d.devices.map _).length ≤ n + 1
      rw [List.length_map]
      omega
    · show d.counters.devicesAdded + d.counters.devicesRemoved
        + (d.counters.devicesUpdated + 1) ≤ n + 1
      omega
  · refine ⟨?_, ?_, hnotified⟩
    · show (d.devices ++ [e]).length ≤ n + 1
      rw [List.length_append, List.length_singleton]
      omega
    · show d.counters.devicesAdded + 1 + d.counters.devicesRemoved
        + d.counters.devicesUpdated ≤ n + 1
      omega

theorem Bounded.withdraw (h : d.Bounded n) (key : String × String) :
    (d.withdraw key).Bounded (n + 1) := by
  have hlonger := h.mono (Nat.le_succ n)
  have hchanges := h.changes
  unfold Directory.withdraw
  split
  · refine ⟨?_, ?_, hlonger.notified⟩
    · exact (List.length_filter_le _ _).trans hlonger.devices
    · show d.counters.devicesAdded + (d.counters.devicesRemoved + 1)
        + d.counters.devicesUpdated ≤ n + 1
      omega
  · exact hlonger

/-- Every device has one of the three types. -/
theorem countP_types (es : List Device) :
    es.countP (fun e => e.type = .ios) + es.countP (fun e => e.type = .c2dm)
      + es.countP (fun e => e.type = .gcm) = es.length := by
  induction es with
  | nil => rfl
  | cons e rest ih =>
      simp only [List.countP_cons, List.length_cons]
      cases e.type <;> simp <;> omega

/-- A notification counts no device twice. -/
theorem reached_le (d : Directory) (n : Notification) :
    d.reached n .ios + d.reached n .c2dm + d.reached n .gcm ≤ d.devices.length := by
  unfold reached
  rw [countP_types]
  exact List.length_filter_le _ _

theorem Bounded.announce (h : d.Bounded n) (m : Notification) :
    (d.announce m).Bounded (n + 1) := by
  have hlonger := h.mono (Nat.le_succ n)
  refine ⟨hlonger.devices, hlonger.changes, ?_⟩
  have hreached := reached_le d m
  have hdevices := h.devices
  have hnotified := h.notified
  have hsquare : (n + 1) * (n + 1) = n * n + n + n + 1 := by
    rw [Nat.add_mul, Nat.mul_add]
    omega
  -- At most all devices are counted, and there are no more of them than operations before.
  simp only [NotifiedCounts.total] at hnotified
  simp only [Directory.announce, NotifiedCounts.total]
  omega

theorem Bounded.next (h : d.Bounded n) (op : Operation) : (d.next op).Bounded (n + 1) := by
  cases op with
  | add e => exact h.register _
  | remove user token => exact h.withdraw _
  | notify m => exact h.announce m
  | get user token => exact h.mono (Nat.le_succ n)
  | list user => exact h.mono (Nat.le_succ n)
  | status => exact h.mono (Nat.le_succ n)

theorem bounded_empty : empty.Bounded 0 := ⟨Nat.le_refl 0, Nat.le_refl 0, Nat.le_refl 0⟩

/-- Counters that have not outgrown 2³² operations are 64-bit words. -/
theorem Bounded.fitsWords (h : d.Bounded n) (hn : n < UInt32.size) : d.counters.FitsWords := by
  have hchanges := h.changes
  have hnotified := h.notified
  -- The square of the number of operations bounds what notifications have counted.
  have hn' : n ≤ 0xffffffff := Nat.le_of_lt_succ hn
  have hsquare : n * n ≤ 0xffffffff * 0xffffffff := Nat.mul_le_mul hn' hn'
  have hsize : UInt64.size = 0x10000000000000000 := rfl
  simp only [NotifiedCounts.total] at hnotified
  refine ⟨by omega, by omega, by omega, ?_, ?_, ?_⟩
  · omega
  · omega
  · omega

end Directory

end PushRegistry.Registry
