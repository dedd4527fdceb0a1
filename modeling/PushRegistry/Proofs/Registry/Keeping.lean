import PushRegistry.Proofs.Registry.Answer
import PushRegistry.Proofs.Registry.Payload
import PushRegistry.Proofs.Registry.Registrations

/-!
# `PushRegistry.Proofs.Registry.Keeping`: a store keeps a directory

`Store.Keeps` relates what a server has in memory to a directory: the same devices in the same
order, and the same counters. Each change of a store is the change of the directory it keeps
(`Keeps.put`, `Keeps.remove`, `Keeps.notify`).
-/

set_option autoImplicit false

namespace PushRegistry.Registry

open PushRegistry.Registry.Directory (Addresses retype)

/-- A store has the devices and the counters of a directory. The payloads that a server remembers
besides are not part of it. -/
structure Store.Keeps (s : Store) (d : Directory) : Prop where
  devices : s.registrations.entries = d.devices
  counters : s.status = d.counters

namespace Store.Keeps

variable {s : Store} {d : Directory} {key : String × String}

theorem empty : Store.empty.Keeps Directory.empty := ⟨rfl, rfl⟩

theorem keys (h : s.Keeps d) : s.registrations.keys = d.keys := by
  rw [Registrations.keys, h.devices, Directory.keys]

theorem contains_iff (h : s.Keeps d) : s.registrations.contains key = true ↔ key ∈ d.keys := by
  rw [Registrations.contains_iff, h.keys]

theorem find?_eq (h : s.Keeps d) : s.registrations.find? key = d.find? key := by
  rw [Registrations.find?, h.devices, Directory.find?]

/-! ### Registrations -/

/-- The entry in the place of another one with its key differs from that one in its type. -/
theorem replaced_eq_retype (d e : Device) :
    Registrations.replaced d e = retype d.key d.type e := by
  unfold Registrations.replaced Directory.retype
  by_cases hkey : e.key = d.key
  · -- User and token agree, so the new entry is the old one with the new type.
    rw [if_pos hkey, if_pos hkey]
    obtain ⟨huser, htoken⟩ := Prod.mk.inj hkey
    cases d
    cases e
    simp_all
  · rw [if_neg hkey, if_neg hkey]

/-- Registering a device in a store registers it in the directory. -/
theorem put (h : s.Keeps d) (e : Device) : (s.put e).Keeps (d.register e) := by
  unfold Directory.register
  by_cases hkey : e.key ∈ d.keys
  · have hmem : e.key ∈ s.registrations.keys := h.keys ▸ hkey
    rw [dif_pos hkey]
    constructor
    · show (s.registrations.insert e).entries = d.devices.map (retype e.key e.type)
      rw [Registrations.entries_insert_of_mem hmem, h.devices]
      exact List.map_congr_left fun x _ => replaced_eq_retype e x
    · show (if _ then _ else _) = _
      rw [if_pos (h.contains_iff.mpr hkey), h.counters]
  · have hmem : e.key ∉ s.registrations.keys := h.keys ▸ hkey
    rw [dif_neg hkey]
    constructor
    · show (s.registrations.insert e).entries = d.devices ++ [e]
      rw [Registrations.entries_insert_of_not_mem hmem, h.devices]
    · show (if _ then _ else _) = _
      rw [if_neg (mt h.contains_iff.mp hkey), h.counters]

/-- Removing a device from a store takes it off the directory. -/
theorem remove (h : s.Keeps d) (hkey : key ∈ d.keys) : (s.remove key).Keeps (d.withdraw key) := by
  unfold Directory.withdraw
  rw [if_pos hkey]
  constructor
  · show s.registrations.entries.filter _ = d.devices.filter _
    rw [h.devices]
  · show { s.status with devicesRemoved := s.status.devicesRemoved + 1 } = _
    rw [h.counters]

/-! ### Notifications -/

/-- Counting devices one by one counts those of each type. -/
theorem foldl_countNotified (es : List Device) (c : NotifiedCounts) :
    (es.map Device.type).foldl Store.countNotified c
      = ⟨c.aps + es.countP (fun e => e.type = .ios), c.c2dm + es.countP (fun e => e.type = .c2dm),
          c.gcm + es.countP (fun e => e.type = .gcm)⟩ := by
  induction es generalizing c with
  | nil => rfl
  | cons e es ih =>
      rw [List.map_cons, List.foldl_cons, ih]
      simp only [List.countP_cons]
      cases e.type <;> simp [Store.countNotified] <;> omega

/-- A payload that reaches what a notification addresses is counted as the notification is. -/
theorem notify (h : s.Keeps d) {n : Notification} {payload : Json.Value}
    (hreaches : ∀ e, Store.reaches payload e = decide (Addresses n e)) :
    (s.notify payload).Keeps (d.announce n) := by
  have htargets : s.targets payload = (d.devices.filter fun e => Addresses n e).map Device.type := by
    rw [Store.targets, h.devices]
    congr 1
    exact List.filter_congr fun e _ => hreaches e
  constructor
  · exact h.devices
  · show { s.status with devicesNotified :=
      (s.targets payload).foldl Store.countNotified s.status.devicesNotified } = _
    rw [htargets, foldl_countNotified, h.counters]
    rfl

end Store.Keeps

end PushRegistry.Registry
