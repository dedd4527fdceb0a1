import PushRegistry.Proofs.Registry.Limits

/-!
# `PushRegistry.Proofs.Registry.Recipients`: whom an accepted notification reaches

A payload names its recipients in two lists: users and device tokens. `recipients` are the strings
among the items of such a list, and `Addressed` says that a device is named by its user or by its
token. `exists_notified_of_accepted` inverts the answer to a notification, and
`growth_of_accepted` is what becomes of the memory of the server: each count grows by the devices
of its type that are addressed, whatever the counts were before.

A device is counted or not counted. So it does not matter how often, in which order or in which of
the two lists it is named, and names of nobody and items that are no strings count for nothing. The
last part of `growth_of_accepted` says this for any two notifications that a server can accept in
the same state: they count the same as soon as they address the same of its devices.

The counts are numbers, and those of a server are 64-bit words. It counts the devices one after the
other, so it gets to the end if and only if the new counts are words, and then they are its own. The
first 2³³ - 1 requests cannot stop it.
-/

set_option autoImplicit false

namespace PushRegistry.Registry

open PushRegistry.Session (serve)

/-! ### Recipients -/

/-- The strings among the items of a list in a payload. -/
def recipients (payload : Json.Value) (name : String) : List String :=
  (((payload.member? name).bind Json.Value.items?).getD []).filterMap Json.Value.string?

/-- A string is a recipient if it stands among the items, wherever and however often. -/
theorem mem_recipients_iff {payload : Json.Value} {name s : String} :
    s ∈ recipients payload name ↔ Lists payload name s := by
  have hstring : ∀ item : Json.Value, item.string? = some s ↔ item = .string s := by
    intro item
    cases item <;> simp [Json.Value.string?]
  unfold recipients Lists
  cases hmember : payload.member? name with
  | none => simp
  | some value => cases value <;> simp [Json.Value.items?, hstring]

/-- A payload names the user or the token of a device. -/
def Addressed (payload : Json.Value) (d : Device) : Prop :=
  d.user ∈ recipients payload "users" ∨ d.token ∈ recipients payload "devices"

instance (payload : Json.Value) (d : Device) : Decidable (Addressed payload d) :=
  inferInstanceAs (Decidable (_ ∨ _))

theorem matches_iff_addressed {payload : Json.Value} {d : Device} :
    Matches payload d ↔ Addressed payload d := by
  rw [Matches, Addressed, mem_recipients_iff, mem_recipients_iff]

/-! ### Accepted notifications -/

/-- A request sends a notification that a server with the given memory accepts. -/
structure AcceptsNotification (s : Store) (a : Arrival) : Prop where
  method : a.method = .post
  route : Route.ofPath? a.path = some .notify
  status : (s.answer a).1.status = .ok

/-- The body of an accepted notification is a payload with all its parts, and the server has taken
it in. All other effects have another method or fail. -/
theorem exists_notified_of_accepted {s : Store} {a : Arrival} (h : AcceptsNotification s a) :
    ∃ payload, Json.Value.decode a.body = .ok payload ∧ isPayload payload = true ∧
      s.answer a = (.bare .ok, s.notify payload) := by
  obtain ⟨hmethod, -, hstatus⟩ := h
  have heffect := effect_answer s a
  generalize s.answer a = answered at heffect hstatus
  cases heffect with
  | @kept reply hread =>
      -- A success that keeps everything is a reading.
      have hsuccess : reply.status.isSuccess = true := by
        show (reply, s).1.status.isSuccess = true
        rw [hstatus]
        rfl
      rcases hread hsuccess with hget | hhead
      · rw [hmethod] at hget
        cases hget
      · rw [hmethod] at hhead
        cases hhead
  | registered hput =>
      rw [hmethod] at hput
      cases hput
  | removed hdelete =>
      rw [hmethod] at hdelete
      cases hdelete
  | notified _ _ hbody hparts => exact ⟨_, hbody, hparts, rfl⟩

/-! ### Counts -/

/-- The counts of all types together determine the counts. -/
theorem eq_of_ofType {c c' : NotifiedCounts} (h : ∀ type, c.ofType type = c'.ofType type) :
    c = c' := by
  have haps : c.aps = c'.aps := h .ios
  have hc2dm : c.c2dm = c'.c2dm := h .c2dm
  have hgcm : c.gcm = c'.gcm := h .gcm
  cases c
  cases c'
  simp_all

/-- Taking in a payload counts the addressed devices of each type. -/
theorem ofType_notify_addressed (s : Store) (payload : Json.Value) (type : DeviceType) :
    (s.notify payload).status.devicesNotified.ofType type
      = s.status.devicesNotified.ofType type
        + s.registrations.entries.countP fun d => d.type = type ∧ Addressed payload d := by
  rw [ofType_notify]
  simp only [matches_iff_addressed]

/-- What a payload counts is what the counters grow by. -/
theorem count_notify (s : Store) (payload : Json.Value) (c : Counter) :
    (s.notify payload).status.count c
      = s.status.count c + ((s.targets payload).map Counter.notified).count c := by
  rw [Store.targets, List.map_map]
  show _ = _ + ((s.registrations.entries.filter (Store.reaches payload)).map
    fun d => Counter.notified d.type).count c
  rw [count_map_notified]
  cases c with
  | notified type =>
      refine (ofType_notify s payload type).trans ?_
      simp only [List.countP_filter, reaches_eq_decide, Bool.decide_and]
      rfl
  | _ => rfl

/-- The words are the counters. -/
def Words.Holds (w : Words) (s : ServerStatus) : Prop := ∀ c, (w c).toNat = s.count c

/-- Counts the devices that a payload reaches, one after the other, up to the first overflow. -/
def Words.notify? (w : Words) (s : Store) (payload : Json.Value) : Option Words :=
  w.run? ((s.targets payload).map Counter.notified)

/-- Counting in words gets to the end if and only if the counters that it leads to are words. -/
theorem notify?_eq_some_iff {s : Store} {w w' : Words} (hw : w.Holds s.status)
    (payload : Json.Value) :
    w.notify? s payload = some w' ↔ w'.Holds (s.notify payload).status := by
  rw [Words.notify?, Words.run?_eq_some_iff, Words.Holds]
  simp only [hw _, count_notify]

/-- Payloads that address the same registered devices count the same. -/
theorem status_notify_congr {s : Store} {payload other : Json.Value}
    (h : ∀ d ∈ s.registrations.entries, Addressed payload d ↔ Addressed other d) :
    (s.notify payload).status = (s.notify other).status := by
  have hcounts : (s.notify payload).status.devicesNotified
      = (s.notify other).status.devicesNotified := by
    apply eq_of_ofType
    intro type
    rw [ofType_notify_addressed, ofType_notify_addressed]
    congr 1
    apply List.countP_congr
    intro d hd
    simp [h d hd]
  -- Apart from these counts, both leave the counters as they were.
  show { s.status with devicesNotified := (s.notify payload).status.devicesNotified }
    = { s.status with devicesNotified := (s.notify other).status.devicesNotified }
  rw [hcounts]

/-- What becomes of a server when it accepts a notification, in any state.

- The body is a payload, and it is the last of the notifications that the server has.
- The count of each type grows by the number of registered devices of that type whose user is among
  the strings of `users` or whose token is among the strings of `devices`.
- In words, the server gets to the end of counting if and only if the new counters are words, and
  then these are what it has. It does after fewer than 2³³ - 1 requests, whatever they were.
- The devices with their order and all other counters are as before.
- Another notification that the server could accept in this state counts the same if the strings in
  its two lists are the same, up to order and repetition.
- It is even enough that it addresses the same of the registered devices, no matter by which of the
  two lists and which other strings are in them. -/
theorem growth_of_accepted (server : Server) (a : Arrival)
    (h : AcceptsNotification server.store a) :
    ∃ payload, Json.Value.decode a.body = .ok payload ∧
      (server.handle a).2.store.notifications = server.store.notifications ++ [payload] ∧
      (∀ type, (server.handle a).2.store.status.devicesNotified.ofType type
        = server.store.status.devicesNotified.ofType type
          + server.store.registrations.entries.countP fun d =>
              d.type = type ∧ (d.user ∈ recipients payload "users" ∨
                d.token ∈ recipients payload "devices")) ∧
      (∀ w w' : Words, w.Holds server.store.status →
        (w.notify? server.store payload = some w' ↔
          w'.Holds (server.handle a).2.store.status)) ∧
      (∀ arrivals, server = (serve arrivals Server.fresh).2 → arrivals.length + 1 < 2 ^ 33 →
        ∃ w w' : Words, w.Holds server.store.status ∧
          w.notify? server.store payload = some w') ∧
      (server.handle a).2.store.registrations = server.store.registrations ∧
      (server.handle a).2.store.status.devicesAdded = server.store.status.devicesAdded ∧
      (server.handle a).2.store.status.devicesRemoved = server.store.status.devicesRemoved ∧
      (server.handle a).2.store.status.devicesUpdated = server.store.status.devicesUpdated ∧
      ∀ (b : Arrival) (other : Json.Value), AcceptsNotification server.store b →
        Json.Value.decode b.body = .ok other →
        ((∀ name ∈ ["users", "devices"], ∀ s : String,
            s ∈ recipients payload name ↔ s ∈ recipients other name) →
          (server.handle b).2.store.status = (server.handle a).2.store.status) ∧
        ((∀ d ∈ server.store.registrations.entries, Addressed payload d ↔ Addressed other d) →
          (server.handle b).2.store.status = (server.handle a).2.store.status) := by
  obtain ⟨payload, hbody, -, hanswer⟩ := exists_notified_of_accepted h
  have hstore : (server.handle a).2.store = server.store.notify payload :=
    congrArg Prod.snd hanswer
  rw [hstore]
  refine ⟨payload, hbody, rfl, ofType_notify_addressed server.store payload,
    fun w w' hw => notify?_eq_some_iff hw payload, ?_, rfl, rfl, rfl, rfl, ?_⟩
  · rintro arrivals rfl hlength
    have hlimited := limited_serve_fresh arrivals
    obtain ⟨w, hw⟩ := hlimited.exists_words (Nat.lt_of_succ_lt hlength)
    obtain ⟨w', hw'⟩ := (hlimited.notify payload).exists_words hlength
    exact ⟨w, w', hw, (notify?_eq_some_iff hw payload).mpr hw'⟩
  intro b other hb hother
  obtain ⟨payload', hbody', -, hanswer'⟩ := exists_notified_of_accepted hb
  obtain rfl : other = payload' := Except.ok.inj (hother.symm.trans hbody')
  have hstore' : (server.handle b).2.store = server.store.notify other :=
    congrArg Prod.snd hanswer'
  rw [hstore']
  constructor
  · intro hnames
    -- The same strings in both lists address the same devices.
    apply status_notify_congr
    intro d _
    have husers := hnames "users" (by simp) d.user
    have htokens := hnames "devices" (by simp) d.token
    rw [Addressed, Addressed, husers, htokens]
  · intro hdevices
    apply status_notify_congr
    intro d hd
    exact (hdevices d hd).symm

/-- Three devices, two of which share a token. One is named by its user, twice, and by its token,
and the lists hold a number, a null and a user whom nobody knows. Each of the two devices that are
addressed counts once. -/
theorem growth_of_accepted_named_twice :
    let store := ((Store.empty.put ⟨"alice", "t1", .ios⟩).put ⟨"bob", "t2", .gcm⟩).put
      ⟨"carol", "t1", .c2dm⟩
    let a : Arrival := ⟨.post, "/v1/notify".toList, none, none, Text.Utf8.ofString
      ("\x7b\"users\":[\"alice\",5,\"nobody\",\"alice\"],\"devices\":[null,\"t1\"]," ++
        "\"aps\":\x7b\x7d,\"c2dm\":\x7b\x7d,\"gcm\":\x7b\x7d\x7d")⟩
    AcceptsNotification store a ∧
      ((Server.mk store []).handle a).2.store.status.devicesNotified = ⟨1, 1, 0⟩ := by
  intro store a
  have haccepts : AcceptsNotification store a := ⟨rfl, by decide +kernel, by decide +kernel⟩
  refine ⟨haccepts, eq_of_ofType fun type => ?_⟩
  obtain ⟨payload, hbody, -, hgrowth, -⟩ := growth_of_accepted ⟨store, []⟩ a haccepts
  have hcount : ((Json.Value.decode a.body).toOption.elim [] fun payload =>
      [DeviceType.ios, .c2dm, .gcm].map fun type =>
        store.registrations.entries.countP fun d => d.type = type ∧ Addressed payload d)
      = [1, 1, 0] := by decide +kernel
  rw [hbody] at hcount
  simp only [Except.toOption, Option.elim_some, List.map_cons, List.map_nil, List.cons.injEq,
    and_true] at hcount
  rw [hgrowth]
  -- No device was notified before.
  cases type with
  | ios => exact (Nat.zero_add _).trans hcount.1
  | c2dm => exact (Nat.zero_add _).trans hcount.2.1
  | gcm => exact (Nat.zero_add _).trans hcount.2.2

end PushRegistry.Registry
