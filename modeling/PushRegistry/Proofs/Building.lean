import PushRegistry.Proofs.RoundTrip

/-!
# `PushRegistry.Proofs.Building`: what a sequence of edits builds

A notification is built by edits, one after the other. `Built edits n` reads `n` off the edits
without replaying them: the recipients are all that were added, in the order of the edits, and every
other entry is what the last edit of it has set. `built_build` says that the edits build such a
notification.

Each part of a notification follows one of two laws. Recipients are appended and entries are
replaced, so there is one induction for each law (`added_build`, `found_build`), and the parts need
only their own step.

Nothing but the order of edits of the same part matters. `Agree` asks for that much of two sequences,
and then they build the same notification with the same texts, however the edits of different parts
are interleaved.
-/

set_option autoImplicit false

namespace PushRegistry.Notification

open PushRegistry.Json (Members)

variable {α β : Type}

/-! ### Edits of one part -/

namespace Edit

/-- The users that an edit adds. -/
def users? : Edit → Option (List String)
  | .users names => some names
  | _ => none

/-- The device tokens that an edit adds. -/
def devices? : Edit → Option (List String)
  | .devices tokens => some tokens
  | _ => none

/-- The text that an edit sets. -/
def alert? : Edit → Option String
  | .alert text => some text
  | _ => none

/-- The badge count that an edit sets. -/
def badge? : Edit → Option UInt32
  | .badge count => some count
  | _ => none

/-- The sound that an edit sets. -/
def sound? : Edit → Option String
  | .sound name => some name
  | _ => none

/-- The value that an edit sets under a key of the data. -/
def data? (key : String) : Edit → Option Json.Value
  | .data k value => if k = key then some value else none
  | _ => none

/-- The collapse key that an edit sets. -/
def collapseKey? : Edit → Option String
  | .collapseKey key => some key
  | _ => none

/-- The value that an edit sets under a name of the Apple payload. -/
def aps? (name : String) : Edit → Option Json.Value
  | .alert text => if name = "alert" then some (.string text) else none
  | .badge count => if name = "badge" then some (.nat count.toNat) else none
  | .sound file => if name = "sound" then some (.string file) else none
  | _ => none

theorem aps?_alert : aps? "alert" = fun e => e.alert?.map .string := by
  funext e
  cases e <;> rfl

theorem aps?_badge : aps? "badge" = fun e => e.badge?.map fun count => .nat count.toNat := by
  funext e
  cases e <;> rfl

theorem aps?_sound : aps? "sound" = fun e => e.sound?.map .string := by
  funext e
  cases e <;> rfl

theorem aps?_of_not_mem {name : String} (h : name ∉ ["alert", "badge", "sound"]) :
    aps? name = fun _ => none := by
  simp only [List.mem_cons, List.not_mem_nil, or_false, not_or] at h
  obtain ⟨halert, hbadge, hsound⟩ := h
  funext e
  cases e <;> simp [aps?, halert, hbadge, hsound]

end Edit

/-- What the last of the edits of one part has set. -/
def last (read : Edit → Option α) (edits : List Edit) : Option α := (edits.filterMap read).getLast?

theorem last_concat (read : Edit → Option α) (edits : List Edit) (e : Edit) :
    last read (edits ++ [e]) = (read e).or (last read edits) := by
  unfold last
  rw [List.filterMap_append, List.getLast?_append]
  cases he : read e <;> simp [he]

theorem last_map (read : Edit → Option α) (f : α → β) (edits : List Edit) :
    last (fun e => (read e).map f) edits = (last read edits).map f := by
  unfold last
  rw [← List.getLast?_map, List.map_filterMap]

/-! ### The two laws -/

theorem build_concat (edits : List Edit) (e : Edit) :
    build (edits ++ [e]) = (build edits).apply e := by
  unfold build
  rw [List.foldl_append]
  rfl

/-- Where each edit appends, the edits append one after the other. Induction on the edits from the
last one. -/
theorem added_build {added : Notification → List α} {read : Edit → Option (List α)}
    (hempty : added empty = [])
    (happly : ∀ n e, added (n.apply e) = added n ++ (read e).getD []) (edits : List Edit) :
    added (build edits) = (edits.filterMap read).flatten := by
  induction edits using List.reverseRecOn with
  | nil => exact hempty
  | append_singleton edits e ih =>
      rw [build_concat, happly, ih, List.filterMap_append, List.flatten_append]
      cases he : read e <;> simp [he]

/-- Where each edit replaces, what is found is what the last edit has set. Induction on the edits
from the last one. -/
theorem found_build (found : Notification → Option α) {read : Edit → Option α}
    (hempty : found empty = none)
    (happly : ∀ n e, found (n.apply e) = (read e).or (found n)) (edits : List Edit) :
    found (build edits) = last read edits := by
  induction edits using List.reverseRecOn with
  | nil => exact hempty
  | append_singleton edits e ih => rw [build_concat, happly, ih, last_concat]

/-! ### One edit -/

section Apply

variable (n : Notification) (e : Edit)

theorem users_apply : (n.apply e).users = n.users ++ e.users?.getD [] := by
  cases e <;> simp [apply, withAlert, withBadge, withSound, withData, withCollapseKey, toUsers,
    toDevices, Edit.users?]

theorem devices_apply : (n.apply e).devices = n.devices ++ e.devices?.getD [] := by
  cases e <;> simp [apply, withAlert, withBadge, withSound, withData, withCollapseKey, toUsers,
    toDevices, Edit.devices?]

theorem collapseKey_apply : (n.apply e).collapseKey = e.collapseKey?.or n.collapseKey := by
  cases e <;> rfl

theorem get?_aps_apply (name : String) :
    (n.apply e).aps.get? name = (e.aps? name).or (n.aps.get? name) := by
  cases e with
  | alert text => exact Members.get?_insert_or "alert" name _ n.aps
  | badge count => exact Members.get?_insert_or "badge" name _ n.aps
  | sound file => exact Members.get?_insert_or "sound" name _ n.aps
  | data key value => rfl
  | collapseKey key => rfl
  | users names => rfl
  | devices tokens => rfl

theorem get?_c2dm_apply (key : String) :
    (n.apply e).c2dm.get? key = (e.data? key).or (n.c2dm.get? key) := by
  cases e with
  | data k value =>
      rw [Edit.data?, ← if_congr (eq_comm (a := key)) rfl rfl]
      exact Members.get?_insert_or k key value n.c2dm
  | alert text => rfl
  | badge count => rfl
  | sound file => rfl
  | collapseKey key => rfl
  | users names => rfl
  | devices tokens => rfl

end Apply

/-- Both Android payloads are set together and start out the same. -/
theorem gcm_build (edits : List Edit) : (build edits).gcm = (build edits).c2dm := by
  induction edits using List.reverseRecOn with
  | nil => rfl
  | append_singleton edits e ih =>
      rw [build_concat]
      cases e with
      | data key value => exact congrArg (Members.insert key value) ih
      | alert text => exact ih
      | badge count => exact ih
      | sound name => exact ih
      | collapseKey key => exact ih
      | users names => exact ih
      | devices tokens => exact ih

/-! ### Whole sequences -/

/-- A notification is what edits have set and added. Its maps are in the order of their names, so
that they hold nothing but what is found in them. -/
structure Built (edits : List Edit) (n : Notification) : Prop where
  users : n.users = (edits.filterMap Edit.users?).flatten
  devices : n.devices = (edits.filterMap Edit.devices?).flatten
  alert : n.aps.get? "alert" = (last Edit.alert? edits).map .string
  badge : n.aps.get? "badge" = (last Edit.badge? edits).map fun count => .nat count.toNat
  sound : n.aps.get? "sound" = (last Edit.sound? edits).map .string
  others : ∀ name, name ∉ ["alert", "badge", "sound"] → n.aps.get? name = none
  data : ∀ key, n.c2dm.get? key = last (Edit.data? key) edits
  gcm : n.gcm = n.c2dm
  collapseKey : n.collapseKey = last Edit.collapseKey? edits
  sorted : n.Sorted

/-- Two sequences add the same recipients in the same order, and their last edits of every other
entry set the same. -/
structure Agree (edits others : List Edit) : Prop where
  users : edits.filterMap Edit.users? = others.filterMap Edit.users?
  devices : edits.filterMap Edit.devices? = others.filterMap Edit.devices?
  alert : last Edit.alert? edits = last Edit.alert? others
  badge : last Edit.badge? edits = last Edit.badge? others
  sound : last Edit.sound? edits = last Edit.sound? others
  data : ∀ key, last (Edit.data? key) edits = last (Edit.data? key) others
  collapseKey : last Edit.collapseKey? edits = last Edit.collapseKey? others

/-- Edits leave no choice: all that they can have built is one notification. -/
theorem Built.eq {edits : List Edit} {n n' : Notification} (h : Built edits n)
    (h' : Built edits n') : n = n' := by
  have haps : n.aps = n'.aps := by
    apply Members.eq_of_get? h.sorted.aps h'.sorted.aps
    intro name
    by_cases hname : name ∈ ["alert", "badge", "sound"]
    · simp only [List.mem_cons, List.not_mem_nil, or_false] at hname
      rcases hname with rfl | rfl | rfl
      · rw [h.alert, h'.alert]
      · rw [h.badge, h'.badge]
      · rw [h.sound, h'.sound]
    · rw [h.others name hname, h'.others name hname]
  have hc2dm : n.c2dm = n'.c2dm := by
    apply Members.eq_of_get? h.sorted.c2dm h'.sorted.c2dm
    intro key
    rw [h.data, h'.data]
  have hgcm : n.gcm = n'.gcm := by rw [h.gcm, h'.gcm, hc2dm]
  have husers : n.users = n'.users := by rw [h.users, h'.users]
  have hdevices : n.devices = n'.devices := by rw [h.devices, h'.devices]
  have hkey : n.collapseKey = n'.collapseKey := by rw [h.collapseKey, h'.collapseKey]
  cases n
  cases n'
  simp_all

/-- What some edits have built is also built by edits that agree with them. -/
theorem Built.of_agree {edits others : List Edit} {n : Notification} (h : Built edits n)
    (hagree : Agree edits others) : Built others n where
  users := by rw [← hagree.users, h.users]
  devices := by rw [← hagree.devices, h.devices]
  alert := by rw [← hagree.alert, h.alert]
  badge := by rw [← hagree.badge, h.badge]
  sound := by rw [← hagree.sound, h.sound]
  others := h.others
  data key := by rw [← hagree.data, h.data]
  gcm := h.gcm
  collapseKey := by rw [← hagree.collapseKey, h.collapseKey]
  sorted := h.sorted

theorem get?_aps_build (edits : List Edit) (name : String) :
    (build edits).aps.get? name = last (Edit.aps? name) edits :=
  found_build (fun n => n.aps.get? name) rfl (fun n e => get?_aps_apply n e name) edits

theorem built_of_build (edits : List Edit) : Built edits (build edits) where
  users := added_build rfl users_apply edits
  devices := added_build rfl devices_apply edits
  alert := by rw [get?_aps_build, Edit.aps?_alert, last_map]
  badge := by rw [get?_aps_build, Edit.aps?_badge, last_map]
  sound := by rw [get?_aps_build, Edit.aps?_sound, last_map]
  others name hname := by
    rw [get?_aps_build, Edit.aps?_of_not_mem hname]
    simp [last]
  data key := found_build (fun n => n.c2dm.get? key) rfl (fun n e => get?_c2dm_apply n e key) edits
  gcm := gcm_build edits
  collapseKey := found_build collapseKey rfl collapseKey_apply edits
  sorted := sorted_build edits

/-- What edits build from nothing, in any number and any order.

- The users and the device tokens are those of all edits, in the order of the edits.
- The Apple payload has the text, the badge count and the sound of the last edit of each, if there
  is one, and nothing else.
- Both Android payloads are the same and have under each key the value of the last edit of that key.
- The collapse key is that of the last edit that sets one.
- Edits that agree with them build the same notification, and its texts are the same. -/
theorem built_build (edits : List Edit) :
    Built edits (build edits) ∧
      ∀ others, Agree edits others →
        build edits = build others ∧
        (build edits).toValue.compact = (build others).toValue.compact ∧
        (build edits).toValue.pretty = (build others).toValue.pretty := by
  refine ⟨built_of_build edits, fun others hagree => ?_⟩
  have heq : build edits = build others :=
    ((built_of_build edits).of_agree hagree).eq (built_of_build others)
  rw [heq]
  exact ⟨rfl, rfl, rfl⟩

/-- Edits of all parts in between each other, some of which are overridden later, and the edits that
remain of them, one part after the other. -/
theorem built_build_interleaved :
    let edits : List Edit := [.alert "a", .users ["x"], .data "k" (.int 1), .sound "s",
      .devices ["d"], .data "k" (.int 2), .collapseKey "c", .badge 3, .users ["y"], .alert "b"]
    let others : List Edit := [.collapseKey "c", .data "k" (.int 2), .users ["x"], .users ["y"],
      .devices ["d"], .sound "s", .badge 3, .alert "b"]
    Agree edits others ∧ build edits = build others := by
  intro edits others
  have hagree : Agree edits others := by
    refine ⟨rfl, rfl, rfl, rfl, rfl, fun key => ?_, rfl⟩
    by_cases hkey : "k" = key
    · subst hkey
      rfl
    · simp only [last, edits, others, List.filterMap_cons, Edit.data?, if_neg hkey, List.filterMap_nil]
  exact ⟨hagree, ((built_build edits).2 others hagree).1⟩

end PushRegistry.Notification
