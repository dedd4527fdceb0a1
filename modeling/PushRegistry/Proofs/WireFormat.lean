import PushRegistry.Device
import PushRegistry.Notification
import PushRegistry.Proofs.Json.Ensures
import PushRegistry.Proofs.Json.Printers
import PushRegistry.Proofs.Json.Records
import PushRegistry.ServerStatus

/-!
# `PushRegistry.Proofs.WireFormat`: typed documents survive the wire

Clients and servers print typed documents and read them again. Each of the readers takes whatever
is written for the document of a value, by following the members in the order in which they are
printed. The round trips follow for both printers: `Device.readsBack` and `Device.readsBack_list`
for all devices and `ServerStatus.readsBack` for counters that are 64-bit words.
`Notification.reads_reader` is the same for notifications whose payloads fit.
-/

set_option autoImplicit false

namespace PushRegistry

open PushRegistry.Json
open PushRegistry.Text

/-! ### Devices -/

namespace Device

/-- The three members of a device fill the three fields. -/
theorem fills_members (n : Nat) (d : Device) :
    Fills (Partial.member n) n Partial.empty
      [("user", .string d.user), ("deviceToken", .string d.token), ("deviceType", d.type.toValue)]
      ⟨some d.user, some d.token, some d.type⟩ := by
  refine .field (reads_string n) (fun _ ht => ht) (by rw [Partial.member]; rfl) ?_
  refine .field (reads_string n) (fun _ ht => ht) (by rw [Partial.member]; rfl) ?_
  refine .field reads_unitVariant (a := d.type) (fun _ ht => ?_) (by rw [Partial.member]; rfl) ?_
  · exact ⟨d.type.tag, d.type.ofTag?_tag, writes_string_iff.mp ht⟩
  exact .nil

/-- A device is read wherever a value may stand. -/
theorem reads_reader (n : Nat) :
    Reads (Device.reader (n + 1)) fun d t => Writes (n + 1) d.toValue t :=
  reads_record rfl fun d _ ht => ⟨_, _, ht, fills_members n d, rfl⟩

theorem printable_toValue (n : Nat) (d : Device) : Printable (n + 1) d.toValue := by
  refine printable_object_cons printable_string ?_
  refine printable_object_cons printable_string ?_
  exact printable_object_cons printable_string printable_object_nil

/-- A device is read back from its document. -/
theorem readsBack (d : Device) : ReadsBack Device.decode d.toValue d :=
  (reads_reader 126).readsBack (printable_toValue 126 d) fun _ ht => ht

theorem decode_compact (d : Device) : Device.decode (Utf8.ofString d.toValue.compact) = .ok d :=
  (readsBack d).compact

theorem printable_listToValue (n : Nat) (ds : List Device) :
    Printable (n + 2) (Device.listToValue ds) := by
  intro v hv
  obtain ⟨d, -, rfl⟩ := List.mem_map.mp hv
  exact printable_toValue n d

/-- A list of devices is read back from its document. -/
theorem readsBack_list (ds : List Device) :
    ReadsBack Device.decodeList (Device.listToValue ds) ds := by
  exact (reads_listOf (reads_reader 125)).readsBack (printable_listToValue 125 ds) fun _ ht => ht

theorem decode_line (d : Device) : Device.decode (Utf8.ofString (d.toValue.pretty ++ "\n")) = .ok d :=
  (reads_reader 126).run_line (printable_toValue 126 d) fun _ ht => ht

theorem decodeList_line (ds : List Device) :
    Device.decodeList (Utf8.ofString ((Device.listToValue ds).pretty ++ "\n")) = .ok ds :=
  (reads_listOf (reads_reader 125)).run_line (printable_listToValue 125 ds) fun _ ht => ht

theorem decodeList_compact (ds : List Device) :
    Device.decodeList (Utf8.ofString (Device.listToValue ds).compact) = .ok ds :=
  (readsBack_list ds).compact

end Device

/-! ### Counters -/

/-- Counters that are unsigned 64-bit words. -/
def NotifiedCounts.FitsWords (c : NotifiedCounts) : Prop :=
  c.aps < UInt64.size ∧ c.c2dm < UInt64.size ∧ c.gcm < UInt64.size

/-- Counters that are unsigned 64-bit words. -/
structure ServerStatus.FitsWords (s : ServerStatus) : Prop where
  added : s.devicesAdded < UInt64.size
  removed : s.devicesRemoved < UInt64.size
  updated : s.devicesUpdated < UInt64.size
  notified : s.devicesNotified.FitsWords

theorem fitsWord_ofNat_iff {k : Nat} : FitsWord (Int.ofNat k) ↔ k < UInt64.size := by
  show -0x8000000000000000 ≤ (k : Int) ∧ (k : Int) < 0x10000000000000000 ↔ k < 0x10000000000000000
  omega

theorem writes_nat_iff {n k : Nat} {t : List UInt8} :
    Writes n (.nat k) t ↔ k < UInt64.size ∧ t = integer (Int.ofNat k) := by
  rw [← fitsWord_ofNat_iff]
  exact writes_int_iff

theorem printable_nat {n k : Nat} (h : k < UInt64.size) : Printable n (.nat k) :=
  printable_int (fitsWord_ofNat_iff.mpr h)

namespace NotifiedCounts

theorem fills_members (n : Nat) (c : NotifiedCounts) :
    Fills Partial.member n Partial.empty
      [("aps", .nat c.aps), ("c2dm", .nat c.c2dm), ("gcm", .nat c.gcm)]
      ⟨some c.aps, some c.c2dm, some c.gcm⟩ := by
  refine .field reads_unsignedValue (fun _ => writes_nat_iff.mp) (by rw [Partial.member]; rfl) ?_
  refine .field reads_unsignedValue (fun _ => writes_nat_iff.mp) (by rw [Partial.member]; rfl) ?_
  refine .field reads_unsignedValue (fun _ => writes_nat_iff.mp) (by rw [Partial.member]; rfl) ?_
  exact .nil

theorem reads_reader (n : Nat) :
    Reads (NotifiedCounts.reader (n + 1)) fun c t => Writes (n + 1) c.toValue t :=
  reads_record rfl fun c _ ht => ⟨_, _, ht, fills_members n c, rfl⟩

theorem printable_toValue (n : Nat) {c : NotifiedCounts} (h : c.FitsWords) :
    Printable (n + 1) c.toValue := by
  obtain ⟨haps, hc2dm, hgcm⟩ := h
  refine printable_object_cons (printable_nat haps) ?_
  refine printable_object_cons (printable_nat hc2dm) ?_
  exact printable_object_cons (printable_nat hgcm) printable_object_nil

/-- The counts that have been read so far are words. -/
structure Partial.FitsWords (p : Partial) : Prop where
  aps : ∀ k ∈ p.aps, k < UInt64.size
  c2dm : ∀ k ∈ p.c2dm, k < UInt64.size
  gcm : ∀ k ∈ p.gcm, k < UInt64.size

theorem ensures_member (name : String) {p : Partial} (h : p.FitsWords) :
    Ensures (Partial.member name p) Partial.FitsWords := by
  unfold Partial.member
  split
  · exact .bind (Reader.ensures_once Reader.ensures_unsignedValue) fun _ hk =>
      .pure { h with aps := hk }
  · exact .bind (Reader.ensures_once Reader.ensures_unsignedValue) fun _ hk =>
      .pure { h with c2dm := hk }
  · exact .bind (Reader.ensures_once Reader.ensures_unsignedValue) fun _ hk =>
      .pure { h with gcm := hk }
  · exact Reader.ensures_unknownField h

/-- Counts that were read are words. -/
theorem ensures_reader (n : Nat) : Ensures (NotifiedCounts.reader n) FitsWords := by
  refine Reader.ensures_record (fun _ => ?_) fun _ => ?_
  · refine .bind (Reader.ensures_requiredElement Reader.ensures_unsignedValue) fun _ haps => ?_
    refine .bind (Reader.ensures_requiredElement Reader.ensures_unsignedValue) fun _ hc2dm => ?_
    refine .bind (Reader.ensures_requiredElement Reader.ensures_unsignedValue) fun _ hgcm => ?_
    exact .pure ⟨haps, hc2dm, hgcm⟩
  · have hempty : Partial.empty.FitsWords := ⟨nofun, nofun, nofun⟩
    refine .bind (Reader.ensures_fields hempty fun name _ => ensures_member name) fun p hp => ?_
    refine .bind (Reader.ensures_required hp.aps) fun _ haps => ?_
    refine .bind (Reader.ensures_required hp.c2dm) fun _ hc2dm => ?_
    refine .bind (Reader.ensures_required hp.gcm) fun _ hgcm => ?_
    exact .pure ⟨haps, hc2dm, hgcm⟩

end NotifiedCounts

namespace ServerStatus

theorem fills_members (n : Nat) (s : ServerStatus) :
    Fills (Partial.member (n + 1)) (n + 1) Partial.empty
      [("devices_added", .nat s.devicesAdded), ("devices_removed", .nat s.devicesRemoved),
        ("devices_updated", .nat s.devicesUpdated), ("devices_notified", s.devicesNotified.toValue)]
      ⟨some s.devicesAdded, some s.devicesRemoved, some s.devicesUpdated,
        some s.devicesNotified⟩ := by
  refine .field reads_unsignedValue (fun _ => writes_nat_iff.mp) (by rw [Partial.member]; rfl) ?_
  refine .field reads_unsignedValue (fun _ => writes_nat_iff.mp) (by rw [Partial.member]; rfl) ?_
  refine .field reads_unsignedValue (fun _ => writes_nat_iff.mp) (by rw [Partial.member]; rfl) ?_
  refine .field (NotifiedCounts.reads_reader n) (fun _ ht => ht) (by rw [Partial.member]; rfl) ?_
  exact .nil

theorem reads_reader (n : Nat) :
    Reads (ServerStatus.reader (n + 2)) fun s t => Writes (n + 2) s.toValue t :=
  reads_record rfl fun s _ ht => ⟨_, _, ht, fills_members n s, rfl⟩

theorem printable_toValue (n : Nat) {s : ServerStatus} (h : s.FitsWords) :
    Printable (n + 2) s.toValue := by
  refine printable_object_cons (printable_nat h.added) ?_
  refine printable_object_cons (printable_nat h.removed) ?_
  refine printable_object_cons (printable_nat h.updated) ?_
  exact printable_object_cons (NotifiedCounts.printable_toValue n h.notified) printable_object_nil

/-- Counters are read back from their document. -/
theorem readsBack {s : ServerStatus} (h : s.FitsWords) :
    ReadsBack ServerStatus.decode s.toValue s :=
  (reads_reader 125).readsBack (printable_toValue 125 h) fun _ ht => ht

theorem decode_line {s : ServerStatus} (h : s.FitsWords) :
    ServerStatus.decode (Utf8.ofString (s.toValue.pretty ++ "\n")) = .ok s :=
  (reads_reader 125).run_line (printable_toValue 125 h) fun _ ht => ht

theorem decode_compact {s : ServerStatus} (h : s.FitsWords) :
    ServerStatus.decode (Utf8.ofString s.toValue.compact) = .ok s := (readsBack h).compact

/-- The counters that have been read so far are words. -/
structure Partial.FitsWords (p : Partial) : Prop where
  added : ∀ k ∈ p.added, k < UInt64.size
  removed : ∀ k ∈ p.removed, k < UInt64.size
  updated : ∀ k ∈ p.updated, k < UInt64.size
  notified : ∀ c ∈ p.notified, c.FitsWords

theorem ensures_member (n : Nat) (name : String) {p : Partial} (h : p.FitsWords) :
    Ensures (Partial.member n name p) Partial.FitsWords := by
  unfold Partial.member
  split
  · exact .bind (Reader.ensures_once Reader.ensures_unsignedValue) fun _ hk =>
      .pure { h with added := hk }
  · exact .bind (Reader.ensures_once Reader.ensures_unsignedValue) fun _ hk =>
      .pure { h with removed := hk }
  · exact .bind (Reader.ensures_once Reader.ensures_unsignedValue) fun _ hk =>
      .pure { h with updated := hk }
  · exact .bind (Reader.ensures_once (NotifiedCounts.ensures_reader n)) fun _ hk =>
      .pure { h with notified := hk }
  · exact Reader.ensures_unknownField h

theorem ensures_reader (n : Nat) : Ensures (ServerStatus.reader n) FitsWords := by
  refine Reader.ensures_record (fun _ => ?_) fun _ => ?_
  · refine .bind (Reader.ensures_requiredElement Reader.ensures_unsignedValue) fun _ hadded => ?_
    refine .bind (Reader.ensures_requiredElement Reader.ensures_unsignedValue) fun _ hremoved => ?_
    refine .bind (Reader.ensures_requiredElement Reader.ensures_unsignedValue) fun _ hupdated => ?_
    refine .bind (Reader.ensures_requiredElement (NotifiedCounts.ensures_reader _)) fun _ hnotified => ?_
    exact .pure ⟨hadded, hremoved, hupdated, hnotified⟩
  · have hempty : Partial.empty.FitsWords := ⟨nofun, nofun, nofun, nofun⟩
    refine .bind (Reader.ensures_fields hempty fun name _ => ensures_member _ name) fun p hp => ?_
    refine .bind (Reader.ensures_required hp.added) fun _ hadded => ?_
    refine .bind (Reader.ensures_required hp.removed) fun _ hremoved => ?_
    refine .bind (Reader.ensures_required hp.updated) fun _ hupdated => ?_
    refine .bind (Reader.ensures_required hp.notified) fun _ hnotified => ?_
    exact .pure ⟨hadded, hremoved, hupdated, hnotified⟩

/-- Counters that were read are words, whatever the text. -/
theorem fitsWords_of_decode {bytes : List UInt8} {s : ServerStatus}
    (h : ServerStatus.decode bytes = .ok s) : s.FitsWords :=
  (Reader.ensures_whole ensures_reader).of_run h

end ServerStatus

/-! ### Notifications -/

namespace Notification

/-- A list of strings. -/
theorem reads_strings (k : Nat) :
    Reads (Partial.strings (k + 1)) fun names t => Writes (k + 1) (.array (names.map .string)) t :=
  reads_listOf (reads_string k)

/-- The members of a notification fill its fields, as far as they are written. -/
theorem fills_members (k : Nat) {n : Notification}
    (h : ∀ payload ∈ [n.aps, n.c2dm, n.gcm], Fits (k + 1) (.object payload)) :
    Fills (Partial.member (k + 1)) (k + 1) Partial.empty
      ([("aps", .object n.aps), ("c2dm", .object n.c2dm), ("gcm", .object n.gcm),
        ("users", .array (n.users.map .string)), ("devices", .array (n.devices.map .string))] ++
        (n.collapseKey.map fun key => ("collapse_key", Value.string key)).toList)
      ⟨some n.aps, some n.c2dm, some n.gcm, some n.users, some n.devices,
        n.collapseKey.map some⟩ := by
  have haps : Fits (k + 1) (.object n.aps) := h n.aps (by simp)
  have hc2dm : Fits (k + 1) (.object n.c2dm) := h n.c2dm (by simp)
  have hgcm : Fits (k + 1) (.object n.gcm) := h n.gcm (by simp)
  refine .field reads_mapOfValues (fun _ ht => ht.spells haps) (by rw [Partial.member]; rfl) ?_
  refine .field reads_mapOfValues (fun _ ht => ht.spells hc2dm) (by rw [Partial.member]; rfl) ?_
  refine .field reads_mapOfValues (fun _ ht => ht.spells hgcm) (by rw [Partial.member]; rfl) ?_
  refine .field (reads_strings k) (fun _ ht => ht) (by rw [Partial.member]; rfl) ?_
  refine .field (reads_strings k) (fun _ ht => ht) (by rw [Partial.member]; rfl) ?_
  -- The field for the collapse key stays empty if there is none, because then it is not written.
  cases n.collapseKey with
  | none => exact .nil
  | some key =>
      exact .field (reads_optionalString (k + 1)) (a := some key) (fun _ ht => ht)
        (by rw [Partial.member]; rfl) .nil

/-- A notification is read if its payloads fit. -/
theorem reads_reader (k : Nat) :
    Reads (Notification.reader (k + 2)) fun n t =>
      (∀ payload ∈ [n.aps, n.c2dm, n.gcm], Fits (k + 1) (.object payload)) ∧
        Writes (k + 2) n.toValue t := by
  refine reads_record rfl fun n _ ht => ⟨_, _, ht.2, fills_members k ht.1, ?_⟩
  -- A collapse key that was not given counts as none.
  obtain ⟨aps, c2dm, gcm, users, devices, collapseKey⟩ := n
  cases collapseKey <;> rfl

end Notification

end PushRegistry
