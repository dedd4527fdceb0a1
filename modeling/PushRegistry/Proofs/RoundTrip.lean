import PushRegistry.Proofs.Registry.Payload

/-!
# `PushRegistry.Proofs.RoundTrip`: what is sent is what arrives

Devices, lists of devices, counters and notifications are the documents that clients and servers
exchange. `readsBack_sent` says of all of them that the reader of each kind returns the value that
was printed, with either printer.

A notification comes back as it was if its maps are in the order of their names, its numbers are
64-bit integers and its brackets are not too deep, which is `NotificationFits`. The order is no
restriction on those who send: `Notification.sorted_build` says that building a notification keeps
it, in whatever order the names are set.
-/

set_option autoImplicit false

namespace PushRegistry

open PushRegistry.Json
open PushRegistry.Registry
open PushRegistry.Text

/-! ### Notifications -/

/-- The maps of a notification are in the order of their names. -/
structure Notification.Sorted (n : Notification) : Prop where
  aps : n.aps.Sorted
  c2dm : n.c2dm.Sorted
  gcm : n.gcm.Sorted

/-- Every edit that sets an entry of a map puts it in its place. -/
theorem Notification.Sorted.apply {n : Notification} (h : n.Sorted) (e : Notification.Edit) :
    (n.apply e).Sorted := by
  cases e with
  | alert text => exact ⟨Members.sorted_insert h.aps _ _, h.c2dm, h.gcm⟩
  | badge count => exact ⟨Members.sorted_insert h.aps _ _, h.c2dm, h.gcm⟩
  | sound name => exact ⟨Members.sorted_insert h.aps _ _, h.c2dm, h.gcm⟩
  | data key value =>
      exact ⟨h.aps, Members.sorted_insert h.c2dm key value, Members.sorted_insert h.gcm key value⟩
  | collapseKey key => exact ⟨h.aps, h.c2dm, h.gcm⟩
  | users names => exact ⟨h.aps, h.c2dm, h.gcm⟩
  | devices tokens => exact ⟨h.aps, h.c2dm, h.gcm⟩

/-- A notification that edits build has its maps in order. Induction on the edits, for all
notifications to start from. -/
theorem Notification.sorted_build (edits : List Notification.Edit) :
    (Notification.build edits).Sorted := by
  have hfold : ∀ n : Notification, n.Sorted → (edits.foldl Notification.apply n).Sorted := by
    induction edits with
    | nil => exact fun n h => h
    | cons e rest ih => exact fun n h => ih (n.apply e) (h.apply e)
  exact hfold _ ⟨Members.sorted_nil, Members.sorted_nil, Members.sorted_nil⟩

theorem printable_notification {n : Notification} (h : NotificationFits n) :
    Printable Reader.depthLimit n.toValue :=
  fun p hp => (fits_notificationMembers h p hp).printable

/-- A notification is read back from its document. -/
theorem Notification.readsBack {n : Notification} (h : NotificationFits n) :
    ReadsBack Notification.decode n.toValue n :=
  (Notification.reads_reader 125).readsBack (printable_notification h) fun _ ht => ⟨h, ht⟩

/-- The document of a notification has a collapse key if and only if the notification has. -/
theorem lookup_collapseKey (n : Notification) :
    (notificationMembers n).lookup "collapse_key" = n.collapseKey.map .string := by
  unfold notificationMembers
  cases n.collapseKey <;> rfl

/-! ### All that is sent -/

/-- What is printed is read back as it was, without blanks and on indented lines: every device,
every list of devices, all counters that are unsigned 64-bit words, and every notification that
fits. The text of such a notification has all members in the order of the document, which for the
maps is the order of the names, however the notification was built. Whoever reads the text without
knowing its kind finds a collapse key in it if and only if there is one. -/
theorem readsBack_sent :
    (∀ d : Device, ReadsBack Device.decode d.toValue d) ∧
    (∀ ds : List Device, ReadsBack Device.decodeList (Device.listToValue ds) ds) ∧
    (∀ s : ServerStatus, s.FitsWords → ReadsBack ServerStatus.decode s.toValue s) ∧
    (∀ edits : List Notification.Edit, (Notification.build edits).Sorted) ∧
    ∀ n : Notification, NotificationFits n →
      ReadsBack Notification.decode n.toValue n ∧
      (∀ text ∈ [n.toValue.compact, n.toValue.pretty],
        Writes Reader.depthLimit n.toValue (Utf8.ofString text)) ∧
      ∃ payload, ReadsBack Value.decode n.toValue payload ∧
        payload.member? "collapse_key" = n.collapseKey.map .string := by
  refine ⟨Device.readsBack, Device.readsBack_list, fun s => ServerStatus.readsBack,
    Notification.sorted_build, ?_⟩
  intro n h
  refine ⟨Notification.readsBack h, ?_, ?_⟩
  · intro text htext
    simp only [List.mem_cons, List.not_mem_nil, or_false] at htext
    rcases htext with rfl | rfl
    · exact writes_compact (printable_notification h)
    · exact writes_pretty (printable_notification h)
  · obtain ⟨payload, hread, hmember⟩ := readsBack_notification h
    exact ⟨payload, hread, (hmember _).trans (lookup_collapseKey n)⟩

/-- Counters at their limit, and a notification with payloads that are hard to print: names and
strings that need escapes, the least and the greatest integer, lists and maps inside each other. -/
theorem readsBack_sent_hard :
    let s : ServerStatus := ⟨0xffffffffffffffff, 0, 1, ⟨0xffffffffffffffff, 7, 0⟩⟩
    let n : Notification :=
      ⟨[("\"\\\n\x01",
            .array [.int (-0x8000000000000000), .object [("", .null), ("é😀", .bool true)]]),
          ("alert", .string "\t\"ü\"\\\u007f")],
        [("n", .nat 0xffffffffffffffff)], [], ["alice", "a\"b"], ["日本"], some "\r"⟩
    ReadsBack ServerStatus.decode s.toValue s ∧ ReadsBack Notification.decode n.toValue n := by
  refine ⟨readsBack_sent.2.2.1 _ ?_, (readsBack_sent.2.2.2.2 _ ?_).1⟩
  · exact ⟨by decide, by decide, by decide, by decide, by decide, by decide⟩
  · decide

end PushRegistry
