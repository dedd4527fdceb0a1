import PushRegistry.Proofs.Json.Grammar
import PushRegistry.Proofs.Json.Members
import PushRegistry.Proofs.Registry.Recipients

/-!
# `PushRegistry.Proofs.Registry.Schema`: two readings of a payload

A server looks into the body of a notification without a schema: it asks for three maps and two
lists, and keeps the document as it is. A client that reads such a payload again knows six fields, and
takes in the entries of the document one after the other.

An entry of a document has a name of its own, so each field meets at most one value. `foldlM_entry?` is
the induction over the entries, and `ofValue?_object_eq_some_iff` reads the notification off what is
found under the six names. Where the server has asked already, only the items of the two lists and the
collapse key are left to go wrong (`ofValue?_payload_eq_some_iff`).

`IsObjectText` and `HasParts` say which bodies the server accepts: of members with the same name the
last one counts. `accepted_readable` puts the two readings together.
-/

set_option autoImplicit false

namespace PushRegistry.Notification

open PushRegistry.Json

/-! ### Fields -/

/-- The names of the fields. -/
def fieldNames : List String := ["aps", "c2dm", "gcm", "users", "devices", "collapse_key"]

namespace Partial

/-- What a field holds at the end: what it held, or what is read of the value under its name. -/
def field? {α : Type} (read : Value → Option α) (given : Option α) (found : Option Value) :
    Option (Option α) :=
  found.elim (some given) fun v => once? given (read v)

section Entry

variable (p : Partial) (v : Value)

theorem entry?_aps :
    entry? p ("aps", v) = (do return { p with aps := ← once? p.aps v.members? }) := rfl

theorem entry?_c2dm :
    entry? p ("c2dm", v) = (do return { p with c2dm := ← once? p.c2dm v.members? }) := rfl

theorem entry?_gcm :
    entry? p ("gcm", v) = (do return { p with gcm := ← once? p.gcm v.members? }) := rfl

theorem entry?_users :
    entry? p ("users", v) = (do return { p with users := ← once? p.users (stringItems? v) }) := rfl

theorem entry?_devices :
    entry? p ("devices", v) = (do
      return { p with devices := ← once? p.devices (stringItems? v) }) := rfl

theorem entry?_collapseKey :
    entry? p ("collapse_key", v) = (do
      return { p with collapseKey := ← once? p.collapseKey (optionalString? v) }) := rfl

theorem entry?_of_not_mem {name : String} (h : name ∉ fieldNames) : entry? p (name, v) = some p := by
  unfold entry?
  dsimp only
  split
  · exact absurd (by decide) h
  · exact absurd (by decide) h
  · exact absurd (by decide) h
  · exact absurd (by decide) h
  · exact absurd (by decide) h
  · exact absurd (by decide) h
  · rfl

end Entry

/-- The entries of a map are taken in one after the other. No name occurs twice, so each field sees
the one value under its name. Induction on the entries. -/
theorem foldlM_entry? {ms : Members Value} (h : (ms.map Prod.fst).Nodup) (p : Partial) :
    ms.foldlM entry? p = (do
      let aps ← field? Value.members? p.aps (Members.get? ms "aps")
      let c2dm ← field? Value.members? p.c2dm (Members.get? ms "c2dm")
      let gcm ← field? Value.members? p.gcm (Members.get? ms "gcm")
      let users ← field? stringItems? p.users (Members.get? ms "users")
      let devices ← field? stringItems? p.devices (Members.get? ms "devices")
      let collapseKey ← field? optionalString? p.collapseKey (Members.get? ms "collapse_key")
      return ⟨aps, c2dm, gcm, users, devices, collapseKey⟩) := by
  induction ms generalizing p with
  | nil => rfl
  | cons entry ms ih =>
      obtain ⟨name, v⟩ := entry
      obtain ⟨hfresh, hrest⟩ := List.nodup_cons.mp h
      have hnone : Members.get? ms name = none := Members.get?_of_not_mem hfresh
      have hget : ∀ field, Members.get? ((name, v) :: ms) field
          = if field = name then some v else Members.get? ms field :=
        fun field => Members.get?_cons name field v ms
      rw [List.foldlM_cons]
      by_cases hname : name ∈ fieldNames
      · -- The entry sets the field of its name, and the other fields are read from the rest.
        simp only [fieldNames, List.mem_cons, List.not_mem_nil, or_false] at hname
        rcases hname with rfl | rfl | rfl | rfl | rfl | rfl
        · rw [entry?_aps]
          cases hv : once? p.aps v.members? with
          | none => simp [field?, hget, hv]
          | some a => simp [field?, hget, hv, hnone, ih hrest]
        · rw [entry?_c2dm]
          cases hv : once? p.c2dm v.members? with
          | none => simp [field?, hget, hv]
          | some a => simp [field?, hget, hv, hnone, ih hrest]
        · rw [entry?_gcm]
          cases hv : once? p.gcm v.members? with
          | none => simp [field?, hget, hv]
          | some a => simp [field?, hget, hv, hnone, ih hrest]
        · rw [entry?_users]
          cases hv : once? p.users (stringItems? v) with
          | none => simp [field?, hget, hv]
          | some a => simp [field?, hget, hv, hnone, ih hrest]
        · rw [entry?_devices]
          cases hv : once? p.devices (stringItems? v) with
          | none => simp [field?, hget, hv]
          | some a => simp [field?, hget, hv, hnone, ih hrest]
        · rw [entry?_collapseKey]
          cases hv : once? p.collapseKey (optionalString? v) with
          | none => simp [field?, hget, hv]
          | some a => simp [field?, hget, hv, hnone, ih hrest]
      · have hother : ∀ field ∈ fieldNames, Members.get? ((name, v) :: ms) field
            = Members.get? ms field := by
          intro field hfield
          rw [hget, if_neg]
          rintro rfl
          exact hname hfield
        rw [entry?_of_not_mem p v hname]
        rw [hother "aps" (by decide), hother "c2dm" (by decide), hother "gcm" (by decide),
          hother "users" (by decide), hother "devices" (by decide),
          hother "collapse_key" (by decide)]
        exact ih hrest p

end Partial

/-! ### Whole documents -/

/-- What a field of a notification holds: what is read of the value under its name, and a default if
there is none. -/
def FieldHolds {α : Type} (read : Value → Option α) (missing : α) (found : Option Value) (a : α) :
    Prop := found.elim (a = missing) fun v => read v = some a

/-- A field that nothing was given before holds this in the end. -/
theorem exists_field?_iff {α : Type} {read : Value → Option α} {missing a : α}
    {found : Option Value} :
    (∃ o, Partial.field? read none found = some o ∧ o.getD missing = a) ↔
      FieldHolds read missing found a := by
  cases found with
  | none => simp [Partial.field?, FieldHolds, eq_comm]
  | some v => simp [Partial.field?, Partial.once?, FieldHolds]

/-- A notification is read of a map if each of its fields is read of what stands under its name.
Nothing else in the map matters. -/
theorem ofValue?_object_eq_some_iff {ms : Members Value} (h : ms.Sorted) {n : Notification} :
    ofValue? (.object ms) = some n ↔
      FieldHolds Value.members? [] (Members.get? ms "aps") n.aps ∧
      FieldHolds Value.members? [] (Members.get? ms "c2dm") n.c2dm ∧
      FieldHolds Value.members? [] (Members.get? ms "gcm") n.gcm ∧
      FieldHolds stringItems? [] (Members.get? ms "users") n.users ∧
      FieldHolds stringItems? [] (Members.get? ms "devices") n.devices ∧
      FieldHolds optionalString? none (Members.get? ms "collapse_key") n.collapseKey := by
  simp only [ofValue?, Partial.foldlM_entry? h.nodup, Option.map_eq_some_iff,
    Option.bind_eq_bind, Option.bind_eq_some_iff, ← exists_field?_iff]
  constructor
  · rintro ⟨q, ⟨aps, haps, c2dm, hc2dm, gcm, hgcm, users, husers, devices, hdevices, key, hkey,
      ⟨⟩⟩, rfl⟩
    exact ⟨⟨aps, haps, rfl⟩, ⟨c2dm, hc2dm, rfl⟩, ⟨gcm, hgcm, rfl⟩, ⟨users, husers, rfl⟩,
      ⟨devices, hdevices, rfl⟩, ⟨key, hkey, rfl⟩⟩
  · rintro ⟨⟨aps, haps, haps'⟩, ⟨c2dm, hc2dm, hc2dm'⟩, ⟨gcm, hgcm, hgcm'⟩, ⟨users, husers, husers'⟩,
      ⟨devices, hdevices, hdevices'⟩, ⟨key, hkey, hkey'⟩⟩
    refine ⟨_, ⟨aps, haps, c2dm, hc2dm, gcm, hgcm, users, husers, devices, hdevices, key, hkey, rfl⟩,
      ?_⟩
    rw [Partial.finish, haps', hc2dm', hgcm', husers', hdevices', hkey']

/-- The strings of a list are read if it holds nothing else. -/
theorem stringItems?_array_eq_some_iff {items : List Value} {names : List String} :
    stringItems? (.array items) = some names ↔ items = names.map .string := by
  show items.mapM Value.string? = some names ↔ _
  induction items generalizing names with
  | nil => cases names <;> simp
  | cons item items ih =>
      rw [List.mapM_cons]
      simp only [Option.bind_eq_bind, Option.bind_eq_some_iff, Option.pure_def, Option.some.injEq, ih]
      constructor
      · rintro ⟨s, hs, names, rfl, rfl⟩
        cases item <;> cases hs
        rfl
      · intro h
        cases names with
        | nil => cases h
        | cons s names =>
            obtain ⟨rfl, rfl⟩ := List.cons.inj h
            exact ⟨s, rfl, names, rfl, rfl⟩

theorem optionalString?_eq_some_iff {v : Value} {o : Option String} :
    optionalString? v = some o ↔ v = .null ∧ o = none ∨ ∃ s, v = .string s ∧ o = some s := by
  cases v <;> simp [optionalString?, eq_comm]

end PushRegistry.Notification

namespace PushRegistry.Registry

open PushRegistry.Json
open PushRegistry.Text

/-! ### Texts of payloads -/

/-- The text holds an object, with blanks around it. The members are given by their names and values,
in the order in which they stand in the text. -/
def IsObjectText (pairs : List (String × Value)) (bytes : List UInt8) : Prop :=
  ∃ before ts u after, Blank before ∧ Blank after ∧
    List.Forall₂ (fun p => DenotesMember (Denotes (Reader.depthLimit - 1) p.2) p.1) pairs ts ∧
    Separated ts u ∧ bytes = before ++ (0x7b :: (u ++ [0x7d]) ++ after)

/-- More blanks behind the object make no difference. -/
theorem IsObjectText.append {pairs : List (String × Value)} {bytes more : List UInt8}
    (h : IsObjectText pairs bytes) (hmore : Blank more) : IsObjectText pairs (bytes ++ more) := by
  obtain ⟨before, ts, u, after, hbefore, hafter, hts, hu, rfl⟩ := h
  exact ⟨before, ts, u, after ++ more, hbefore, List.forall_mem_append.mpr ⟨hafter, hmore⟩, hts, hu,
    by simp only [List.append_assoc]⟩

/-- The value of the last of the members with a name. -/
def lastUnder (name : String) (pairs : List (String × Value)) : Option Value :=
  pairs.reverse.lookup name

/-- The members have all parts that a notification needs. -/
structure HasParts (pairs : List (String × Value)) : Prop where
  objects : ∀ name ∈ ["aps", "c2dm", "gcm"], ∃ ms, lastUnder name pairs = some (.object ms)
  lists : ∀ name ∈ ["users", "devices"], ∃ items, lastUnder name pairs = some (.array items)

/-- A text is read as an object if it holds one. -/
theorem decode_eq_object_iff {bytes : List UInt8} {ms : Members Value} :
    Value.decode bytes = .ok (.object ms) ↔
      ∃ pairs, ms = Members.ofList pairs ∧ IsObjectText pairs bytes := by
  rw [Value.decode_eq_ok_iff]
  constructor
  · rintro ⟨before, t, after, ⟨pairs, ts, u, rfl, hts, hu, rfl⟩, hbefore, hafter, rfl⟩
    exact ⟨pairs, rfl, before, ts, u, after, hbefore, hafter, hts, hu, rfl⟩
  · rintro ⟨pairs, rfl, before, ts, u, after, hbefore, hafter, hts, hu, rfl⟩
    exact ⟨before, _, after, ⟨pairs, ts, u, rfl, hts, hu, rfl⟩, hbefore, hafter, rfl⟩

/-- Only objects are payloads, and those that have all parts. -/
theorem isPayload_eq_true_iff {v : Value} :
    isPayload v = true ↔
      (∀ name ∈ ["aps", "c2dm", "gcm"], ∃ ms, v.member? name = some (.object ms)) ∧
        ∀ name ∈ ["users", "devices"], ∃ items, v.member? name = some (.array items) := by
  have hobject : ∀ o : Option Value,
      (o.bind Value.members?).isSome = true ↔ ∃ ms, o = some (.object ms) := by
    intro o
    cases o with
    | none => simp
    | some w => cases w <;> simp [Value.members?]
  have harray : ∀ o : Option Value,
      (o.bind Value.items?).isSome = true ↔ ∃ items, o = some (.array items) := by
    intro o
    cases o with
    | none => simp
    | some w => cases w <;> simp [Value.items?]
  simp only [isPayload, Bool.and_eq_true, List.all_eq_true, hobject, harray]

theorem isPayload_ofList_iff {pairs : List (String × Value)} :
    isPayload (.object (Members.ofList pairs)) = true ↔ HasParts pairs := by
  have hget : ∀ name, (Value.object (Members.ofList pairs)).member? name = lastUnder name pairs :=
    fun name => Members.get?_ofList_reverse pairs name
  rw [isPayload_eq_true_iff]
  simp only [hget]
  exact ⟨fun h => ⟨h.1, h.2⟩, fun h => ⟨h.objects, h.lists⟩⟩

/-- A payload is an object. -/
theorem exists_object_of_isPayload {v : Value} (h : isPayload v = true) :
    ∃ ms, v = .object ms := by
  obtain ⟨ms, hms⟩ := (isPayload_eq_true_iff.mp h).1 "aps" (by simp)
  cases v with
  | object members => exact ⟨members, rfl⟩
  | null => cases hms
  | bool b => cases hms
  | number k => cases hms
  | string s => cases hms
  | array items => cases hms

/-! ### Acceptance -/

/-- A notification whose body is text is accepted if the body is within the limit and a document with
all parts. -/
theorem status_answer_eq_ok_iff {s : Store} {a : Arrival} (hmethod : a.method = .post)
    (hroute : Route.ofPath? a.path = some .notify) (htext : Utf8.fault? a.body = none) :
    (s.answer a).1.status = .ok ↔ a.body.length ≤ bodyLimit ∧
      ∃ payload, Value.decode a.body = .ok payload ∧ isPayload payload = true := by
  have hanswer : s.answer a = notify a.body s := by
    rw [answer_of_route hroute, Route.serve.eq_def, hmethod]
  constructor
  · intro hstatus
    obtain ⟨payload, hbody, hparts, -⟩ := exists_notified_of_accepted ⟨hmethod, hroute, hstatus⟩
    refine ⟨Nat.le_of_not_lt fun hlong => ?_, payload, hbody, hparts⟩
    rw [hanswer, notify, bodyRefusal?_of_length hlong] at hstatus
    cases hstatus
  · rintro ⟨hlength, payload, hbody, hparts⟩
    rw [hanswer, notify, bodyRefusal?_eq_none_iff.mpr ⟨hlength, htext⟩, hbody]
    simp only [hparts, if_true]
    rfl

section Payload

variable {ms : Members Value} {n : Notification}

/-- What a client reads of a payload: its maps as they stand, its lists as lists of strings, and its
collapse key. -/
theorem ofValue?_payload_eq_some_iff (h : ms.Sorted) (hparts : isPayload (.object ms) = true) :
    Notification.ofValue? (.object ms) = some n ↔
      Members.get? ms "aps" = some (.object n.aps) ∧
      Members.get? ms "c2dm" = some (.object n.c2dm) ∧
      Members.get? ms "gcm" = some (.object n.gcm) ∧
      Members.get? ms "users" = some (.array (n.users.map .string)) ∧
      Members.get? ms "devices" = some (.array (n.devices.map .string)) ∧
      (∀ v, Members.get? ms "collapse_key" = some v → v = .null ∨ ∃ s, v = .string s) ∧
      n.collapseKey = (Members.get? ms "collapse_key").bind Value.string? := by
  obtain ⟨hobjects, hlists⟩ := isPayload_eq_true_iff.mp hparts
  have hmap : ∀ name ∈ ["aps", "c2dm", "gcm"], ∀ a,
      Notification.FieldHolds Value.members? [] (Members.get? ms name) a ↔
        Members.get? ms name = some (.object a) := by
    intro name hname a
    obtain ⟨m, hm⟩ : ∃ m, Members.get? ms name = some (.object m) := hobjects name hname
    simp [hm, Notification.FieldHolds, Value.members?]
  have hlist : ∀ name ∈ ["users", "devices"], ∀ names,
      Notification.FieldHolds Notification.stringItems? [] (Members.get? ms name) names ↔
        Members.get? ms name = some (.array (names.map .string)) := by
    intro name hname names
    obtain ⟨items, hitems⟩ : ∃ items, Members.get? ms name = some (.array items) :=
      hlists name hname
    simp [hitems, Notification.FieldHolds, Notification.stringItems?_array_eq_some_iff]
  -- A collapse key is the only part that may be missing.
  have hkey : ∀ key, Notification.FieldHolds Notification.optionalString? none
      (Members.get? ms "collapse_key") key ↔
        (∀ v, Members.get? ms "collapse_key" = some v → v = .null ∨ ∃ s, v = .string s) ∧
          key = (Members.get? ms "collapse_key").bind Value.string? := by
    intro key
    cases hfound : Members.get? ms "collapse_key" with
    | none => simp [Notification.FieldHolds]
    | some v =>
        rw [Notification.FieldHolds, Option.elim_some, Notification.optionalString?_eq_some_iff]
        cases v <;> simp [Value.string?]
  rw [Notification.ofValue?_object_eq_some_iff h, hmap "aps" (by simp), hmap "c2dm" (by simp),
    hmap "gcm" (by simp), hlist "users" (by simp), hlist "devices" (by simp), hkey]

theorem exists_map_string_iff {items : List Value} :
    (∃ names : List String, items = names.map .string) ↔ ∀ item ∈ items, ∃ s, item = .string s := by
  constructor
  · rintro ⟨names, rfl⟩ item hitem
    obtain ⟨s, -, rfl⟩ := List.mem_map.mp hitem
    exact ⟨s, rfl⟩
  · intro h
    induction items with
    | nil => exact ⟨[], rfl⟩
    | cons item items ih =>
        obtain ⟨⟨s, rfl⟩, htail⟩ := List.forall_mem_cons.mp h
        obtain ⟨names, rfl⟩ := ih htail
        exact ⟨s :: names, rfl⟩

/-- A payload is read as a notification if its lists hold only strings, and if its collapse key is a
string, null or missing. -/
theorem exists_ofValue?_payload_iff (h : ms.Sorted) (hparts : isPayload (.object ms) = true) :
    (∃ n, Notification.ofValue? (.object ms) = some n) ↔
      (∀ name ∈ ["users", "devices"], ∀ items, Members.get? ms name = some (.array items) →
        ∀ item ∈ items, ∃ s, item = .string s) ∧
      ∀ v, Members.get? ms "collapse_key" = some v → v = .null ∨ ∃ s, v = .string s := by
  obtain ⟨hobjects, hlists⟩ := isPayload_eq_true_iff.mp hparts
  constructor
  · rintro ⟨n, hn⟩
    obtain ⟨-, -, -, husers, hdevices, hkey, -⟩ := (ofValue?_payload_eq_some_iff h hparts).mp hn
    refine ⟨?_, hkey⟩
    intro name hname items hitems
    simp only [List.mem_cons, List.not_mem_nil, or_false] at hname
    rcases hname with rfl | rfl
    · have heq := Option.some.inj (hitems.symm.trans husers)
      exact exists_map_string_iff.mp ⟨n.users, Value.array.inj heq⟩
    · have heq := Option.some.inj (hitems.symm.trans hdevices)
      exact exists_map_string_iff.mp ⟨n.devices, Value.array.inj heq⟩
  · rintro ⟨hstrings, hkey⟩
    obtain ⟨aps, haps⟩ := hobjects "aps" (by simp)
    obtain ⟨c2dm, hc2dm⟩ := hobjects "c2dm" (by simp)
    obtain ⟨gcm, hgcm⟩ := hobjects "gcm" (by simp)
    obtain ⟨users, husers⟩ := hlists "users" (by simp)
    obtain ⟨devices, hdevices⟩ := hlists "devices" (by simp)
    obtain ⟨userNames, rfl⟩ := exists_map_string_iff.mpr (hstrings "users" (by simp) users husers)
    obtain ⟨tokens, rfl⟩ := exists_map_string_iff.mpr (hstrings "devices" (by simp) devices hdevices)
    exact ⟨⟨aps, c2dm, gcm, userNames, tokens, _⟩, (ofValue?_payload_eq_some_iff h hparts).mpr
      ⟨haps, hc2dm, hgcm, husers, hdevices, hkey, rfl⟩⟩

end Payload

/-- What a server accepts and what a client reads of it.

- Of the bodies that are text, those within the limit are accepted that hold an object with all
  parts: its last members under `aps`, `c2dm` and `gcm` are objects, and those under `users` and
  `devices` are lists.
- The payload that is kept has under every name the last value that the text gives for it.
- A client can read this payload as a notification if its two lists hold only strings, and if its
  `collapse_key` is a string, null or missing.
- What the client then has in each field is what the payload has under its name.
- Other members of the payload make no difference to what is read. -/
theorem accepted_readable (server : Server) (a : Arrival) (hmethod : a.method = .post)
    (hroute : Route.ofPath? a.path = some .notify) (htext : Utf8.fault? a.body = none) :
    ((server.handle a).1.status = .ok ↔
      a.body.length ≤ bodyLimit ∧ ∃ pairs, IsObjectText pairs a.body ∧ HasParts pairs) ∧
    ∀ pairs, IsObjectText pairs a.body → (server.handle a).1.status = .ok →
      HasParts pairs ∧
      ∃ payload, (server.handle a).2.store.notifications = server.store.notifications ++ [payload] ∧
        (∀ name, payload.member? name = lastUnder name pairs) ∧
        ((∃ n, Notification.ofValue? payload = some n) ↔
          (∀ name ∈ ["users", "devices"], ∀ items, payload.member? name = some (.array items) →
            ∀ item ∈ items, ∃ s, item = .string s) ∧
          ∀ v, payload.member? "collapse_key" = some v → v = .null ∨ ∃ s, v = .string s) ∧
        (∀ n, Notification.ofValue? payload = some n →
          payload.member? "aps" = some (.object n.aps) ∧
          payload.member? "c2dm" = some (.object n.c2dm) ∧
          payload.member? "gcm" = some (.object n.gcm) ∧
          payload.member? "users" = some (.array (n.users.map .string)) ∧
          payload.member? "devices" = some (.array (n.devices.map .string)) ∧
          n.collapseKey = (payload.member? "collapse_key").bind Value.string?) ∧
        ∀ other : Members Value, other.Sorted →
          (∀ name ∈ Notification.fieldNames, Members.get? other name = payload.member? name) →
          Notification.ofValue? (.object other) = Notification.ofValue? payload := by
  have hstatus : (server.handle a).1.status = .ok ↔ a.body.length ≤ bodyLimit ∧
      ∃ payload, Value.decode a.body = .ok payload ∧ isPayload payload = true :=
    status_answer_eq_ok_iff hmethod hroute htext
  constructor
  · rw [hstatus]
    refine and_congr_right fun _ => ?_
    constructor
    · rintro ⟨payload, hbody, hparts⟩
      obtain ⟨ms, rfl⟩ := exists_object_of_isPayload hparts
      obtain ⟨pairs, rfl, hpairs⟩ := decode_eq_object_iff.mp hbody
      exact ⟨pairs, hpairs, isPayload_ofList_iff.mp hparts⟩
    · rintro ⟨pairs, hpairs, hparts⟩
      exact ⟨_, decode_eq_object_iff.mpr ⟨pairs, rfl, hpairs⟩, isPayload_ofList_iff.mpr hparts⟩
  · intro pairs hpairs hok
    -- The text has no other members, since it is read as one document only.
    have hbody := decode_eq_object_iff.mpr ⟨pairs, rfl, hpairs⟩
    obtain ⟨payload, hbody', hparts, hanswer⟩ :=
      exists_notified_of_accepted (s := server.store) ⟨hmethod, hroute, hok⟩
    obtain rfl := Except.ok.inj (hbody.symm.trans hbody')
    have hsorted := Members.sorted_ofList pairs
    have hstore : (server.handle a).2.store = server.store.notify (.object (Members.ofList pairs)) :=
      congrArg Prod.snd hanswer
    refine ⟨isPayload_ofList_iff.mp hparts, .object (Members.ofList pairs), by rw [hstore]; rfl,
      Members.get?_ofList_reverse pairs, exists_ofValue?_payload_iff hsorted hparts, ?_, ?_⟩
    · intro n hn
      obtain ⟨haps, hc2dm, hgcm, husers, hdevices, -, hkey⟩ :=
        (ofValue?_payload_eq_some_iff hsorted hparts).mp hn
      exact ⟨haps, hc2dm, hgcm, husers, hdevices, hkey⟩
    · intro other hother hsame
      refine Option.ext fun n => ?_
      rw [Notification.ofValue?_object_eq_some_iff hother,
        Notification.ofValue?_object_eq_some_iff hsorted]
      rw [hsame "aps" (by decide), hsame "c2dm" (by decide), hsame "gcm" (by decide),
        hsame "users" (by decide), hsame "devices" (by decide), hsame "collapse_key" (by decide)]
      rfl

/-- The first value under `aps` is no object, but the last one is. The member `extra` belongs to no
notification, and the collapse key is null. The body is accepted, and a client reads its one user. -/
theorem accepted_readable_repeated :
    let a : Arrival := ⟨.post, "/v1/notify".toList, none, none, Utf8.ofString
      ("\x7b\"aps\": 1, \"extra\": [1.5e3], \"users\": [\"bob\"], \"devices\": [], " ++
        "\"gcm\": \x7b\x7d, \"\\u0061ps\": \x7b\x7d, \"c2dm\": \x7b\x7d, \"collapse_key\": null\x7d")⟩
    (Server.fresh.handle a).1.status = .ok ∧
      ∃ payload n, (Server.fresh.handle a).2.store.notifications = [payload] ∧
        Notification.ofValue? payload = some n ∧ n.users = ["bob"] ∧
        payload.member? "aps" = some (.object n.aps) := by
  intro a
  have hok : (Server.fresh.handle a).1.status = .ok := by decide +kernel
  obtain ⟨haccepted, hread⟩ := accepted_readable Server.fresh a rfl (by decide +kernel)
    (by decide +kernel)
  obtain ⟨-, pairs, hpairs, -⟩ := haccepted.mp hok
  obtain ⟨-, payload, hkept, -, -, hfields, -⟩ := hread pairs hpairs hok
  refine ⟨hok, payload, ?_⟩
  have husers : ((Server.fresh.handle a).2.store.notifications.map fun payload =>
      (Notification.ofValue? payload).map Notification.users) = [some ["bob"]] := by decide +kernel
  rw [hkept] at husers
  obtain ⟨n, hn, hbob⟩ := Option.map_eq_some_iff.mp (List.cons.inj husers).1
  exact ⟨n, hkept, hn, hbob, (hfields n hn).1⟩

/-- A payload can be as long as one likes: blanks behind an object with all parts. -/
theorem exists_payload_of_length (n : Nat) :
    ∃ body, n < body.length ∧ Utf8.fault? body = none ∧
      ∃ pairs, IsObjectText pairs body ∧ HasParts pairs := by
  let text := "\x7b\"aps\":\x7b\x7d,\"c2dm\":\x7b\x7d,\"gcm\":\x7b\x7d,\"users\":[],\"devices\":[]\x7d"
  have hread : ∃ payload, Value.decode (Utf8.ofString text) = .ok payload ∧
      isPayload payload = true := by
    have hok : (Store.empty.answer
        ⟨.post, "/v1/notify".toList, none, none, Utf8.ofString text⟩).1.status = .ok := by
      decide +kernel
    exact ((status_answer_eq_ok_iff rfl (by decide +kernel) (by decide +kernel)).mp hok).2
  obtain ⟨payload, hdecode, hparts⟩ := hread
  obtain ⟨ms, rfl⟩ := exists_object_of_isPayload hparts
  obtain ⟨pairs, rfl, hpairs⟩ := decode_eq_object_iff.mp hdecode
  have hblanks : Utf8.encode (List.replicate n ' ') = List.replicate n 0x20 := by
    rw [Utf8.encode_ascii fun c hc => by rw [List.eq_of_mem_replicate hc]; decide,
      List.map_replicate]
    rfl
  have hblank : Blank (Utf8.encode (List.replicate n ' ')) := by
    rw [hblanks]
    rintro b hb
    rw [List.eq_of_mem_replicate hb]
    rfl
  refine ⟨Utf8.encode (text.toList ++ List.replicate n ' '), ?_, Utf8.fault?_encode _, pairs, ?_,
    isPayload_ofList_iff.mp hparts⟩
  · have htext : 0 < (Utf8.encode text.toList).length := by decide
    rw [Utf8.encode_append, List.length_append, hblanks, List.length_replicate]
    omega
  · rw [Utf8.encode_append]
    exact hpairs.append hblank

/-- The shape of a body does not decide alone: an object with all parts and with more than
2 097 152 blanks behind it is refused. -/
theorem not_forall_accepted : ¬ ∀ (server : Server) (a : Arrival), a.method = .post →
    Route.ofPath? a.path = some .notify → Utf8.fault? a.body = none →
    ((server.handle a).1.status = .ok ↔
      ∃ pairs, IsObjectText pairs a.body ∧ HasParts pairs) := by
  intro h
  obtain ⟨body, hlong, htext, hpayload⟩ := exists_payload_of_length bodyLimit
  let a : Arrival := ⟨.post, "/v1/notify".toList, none, none, body⟩
  have hroute : Route.ofPath? a.path = some .notify := by rfl
  have hok : (Store.empty.answer a).1.status = .ok := (h Server.fresh a rfl hroute htext).mpr hpayload
  exact absurd ((status_answer_eq_ok_iff rfl hroute htext).mp hok).1 (Nat.not_le_of_lt hlong)

end PushRegistry.Registry
