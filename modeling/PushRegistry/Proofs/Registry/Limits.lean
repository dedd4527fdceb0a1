import Mathlib.Algebra.Order.Ring.Nat
import PushRegistry.Proofs.Registry.Counting

/-!
# `PushRegistry.Proofs.Registry.Limits`: how far the counters of a server can get

A notification counts every device that it reaches, so the counts of notified devices can grow
faster than the number of requests. They are bounded by a product: each accepted notification adds
at most the devices that are there, and there are no more of these than there were changes.
`Store.Limited` is this invariant and `Limited.answer` its step. Changes and notifications are
different requests, so `n` requests leave the product at `n² / 4` at most.

`counters_in_range` states the bounds for all runs. Its last part is about a server that counts in
64-bit words: `increments` lists all increments of a run in their order, `Words.run?` does them in
words and stops at the first one that overflows, and in fewer than 2³³ requests none does.
-/

set_option autoImplicit false

namespace PushRegistry

/-- A counter of a server. -/
inductive Counter where
  | added
  | removed
  | updated
  | notified (type : DeviceType)
  deriving DecidableEq, Repr

/-- What a counter has reached. -/
def ServerStatus.count (s : ServerStatus) : Counter → Nat
  | .added => s.devicesAdded
  | .removed => s.devicesRemoved
  | .updated => s.devicesUpdated
  | .notified type => s.devicesNotified.ofType type

/-- The changes of registrations that were counted. -/
def ServerStatus.changes (s : ServerStatus) : Nat :=
  s.devicesAdded + s.devicesUpdated + s.devicesRemoved

namespace Registry

open PushRegistry.Session (serve)

/-! ### Counting in words -/

/-- The counters of a server as 64-bit words. -/
abbrev Words := Counter → UInt64

namespace Words

/-- Nothing was counted. -/
def zero : Words := fun _ => 0

/-- Adds one to a counter. There is no result if that overflows the word. -/
def increment? (w : Words) (c : Counter) : Option Words :=
  if (w c).toNat + 1 < UInt64.size then some (Function.update w c (w c + 1)) else none

/-- Increments counters one after the other, up to the first overflow. -/
def run? (w : Words) (cs : List Counter) : Option Words := cs.foldlM increment? w

variable {w w' : Words} {c : Counter} {cs : List Counter}

theorem run?_cons (c : Counter) (cs : List Counter) (w : Words) :
    w.run? (c :: cs) = (w.increment? c).bind fun w => w.run? cs := rfl

/-- An increment without an overflow adds one to its counter and nothing to the others. -/
theorem toNat_update (h : (w c).toNat + 1 < UInt64.size) (c' : Counter) :
    (Function.update w c (w c + 1) c').toNat = (w c').toNat + if c = c' then 1 else 0 := by
  by_cases hc : c = c'
  · subst hc
    rw [Function.update_self, if_pos rfl, UInt64.toNat_add]
    exact Nat.mod_eq_of_lt h
  · rw [Function.update_of_ne (Ne.symm hc), if_neg hc, Nat.add_zero]

/-- Increments can be done in words if and only if their number and what was counted before add up
to a word for every counter. The words are then these sums. Induction on the increments, for all
words that they can start from. -/
theorem run?_eq_some_iff :
    w.run? cs = some w' ↔ ∀ c, (w' c).toNat = (w c).toNat + cs.count c := by
  induction cs generalizing w with
  | nil =>
      show some w = some w' ↔ _
      constructor
      · intro h c
        rw [Option.some.inj h]
        rfl
      · intro h
        have hwords : w = w' := funext fun c => UInt64.toNat_inj.mp (h c).symm
        rw [hwords]
  | cons c cs ih =>
      rw [run?_cons, increment?]
      by_cases hfits : (w c).toNat + 1 < UInt64.size
      · rw [if_pos hfits, Option.bind_some, ih]
        -- It does not matter whether the first increment is counted with the words or with the
        -- others.
        have hsum : ∀ c', (Function.update w c (w c + 1) c').toNat + cs.count c'
            = (w c').toNat + (c :: cs).count c' := by
          intro c'
          rw [toNat_update hfits, List.count_cons]
          simp only [beq_iff_eq]
          omega
        simp only [hsum]
      · -- The word of this counter is full, so no word can hold the sum.
        rw [if_neg hfits, Option.bind_none]
        constructor
        · intro h
          cases h
        · intro h
          have hword : (w' c).toNat < UInt64.size := (w' c).toNat_lt
          have hsum := h c
          rw [List.count_cons_self] at hsum
          omega

end Words

/-! ### The increments of a request -/

/-- Increments for devices go to the counters of their types. -/
theorem count_map_notified (es : List Device) (c : Counter) :
    (es.map fun d => Counter.notified d.type).count c = match c with
      | .notified type => es.countP fun d => d.type = type
      | _ => 0 := by
  have htype : ∀ type type' : DeviceType,
      (Counter.notified type == .notified type') = decide (type = type') := by
    intro type type'
    rw [Bool.eq_iff_iff, beq_iff_eq, decide_eq_true_iff, Counter.notified.injEq]
  rw [List.count_eq_countP, List.countP_map]
  cases c with
  | added => simp
  | removed => simp
  | updated => simp
  | notified type => simp [htype, Function.comp_def]

namespace Handled

/-- The devices that an accepted notification reaches, each by the counter of its type. -/
def targets (h : Handled) : List Counter :=
  if h.Accepted then
    (h.store.registrations.entries.filter fun d => h.Reaches d).map fun d => .notified d.type
  else []

/-- The counters that a server increments for a request, in the order in which it does so. The
answer tells which they are, and at most one of the four parts is not empty. -/
def increments (h : Handled) : List Counter :=
  (if h.Answered .put .created then [.added] else []) ++
    (if h.Answered .put .ok then [.updated] else []) ++
    (if h.Answered .delete .noContent then [.removed] else []) ++ h.targets

theorem count_targets (h : Handled) (c : Counter) :
    h.targets.count c = match c with
      | .notified type => h.notified type
      | _ => 0 := by
  unfold targets notified
  by_cases haccepted : h.Accepted
  · rw [if_pos haccepted, count_map_notified]
    cases c with
    | notified type => simp [haccepted, List.countP_filter]
    | _ => rfl
  · rw [if_neg haccepted, List.count_nil]
    cases c <;> simp [haccepted]

theorem count_ite_singleton (p : Prop) [Decidable p] (c c' : Counter) :
    (if p then [c] else []).count c' = if p ∧ c = c' then 1 else 0 := by
  by_cases hp : p <;> simp [hp, List.count_singleton]

/-- How often a request increments each counter. -/
theorem count_increments (h : Handled) (c : Counter) :
    h.increments.count c = match c with
      | .added => if h.Answered .put .created then 1 else 0
      | .updated => if h.Answered .put .ok then 1 else 0
      | .removed => if h.Answered .delete .noContent then 1 else 0
      | .notified type => h.notified type := by
  unfold increments
  simp only [List.count_append, count_ite_singleton, count_targets]
  cases c <;> simp

end Handled

theorem countP_eq_sum (hs : List Handled) (p : Handled → Prop) [DecidablePred p] :
    hs.countP p = (hs.map fun h => if p h then 1 else 0).sum := by
  induction hs with
  | nil => rfl
  | cons h hs ih =>
      rw [List.countP_cons, List.map_cons, List.sum_cons, ih, Nat.add_comm]
      simp only [decide_eq_true_eq]

/-- The counters are what the increments of all requests add up to. -/
theorem Counted.count_eq {s : Store} {hs : List Handled} (h : Counted s hs) (c : Counter) :
    s.status.count c = (hs.flatMap Handled.increments).count c := by
  rw [List.count_flatMap]
  simp only [Function.comp_def, Handled.count_increments]
  cases c with
  | added => exact h.added.trans (countP_eq_sum hs _)
  | removed => exact h.removed.trans (countP_eq_sum hs _)
  | updated => exact h.updated.trans (countP_eq_sum hs _)
  | notified type => exact h.notified type

/-- All increments of a run, by a server that was fresh before it. -/
def increments (arrivals : List Arrival) : List Counter :=
  (handled arrivals Server.fresh).flatMap Handled.increments

/-- A server that counts in words gets through a run if and only if words can hold the counters, and
it has counted the same. -/
theorem run?_increments_eq_some_iff {arrivals : List Arrival} {w : Words} :
    Words.zero.run? (increments arrivals) = some w ↔
      ∀ c, (w c).toNat = (serve arrivals Server.fresh).2.store.status.count c := by
  have hcounted : Counted (serve arrivals Server.fresh).2.store (handled arrivals Server.fresh) :=
    counted_serve arrivals Server.fresh [] .empty
  have hzero : ∀ c, (Words.zero c).toNat = 0 := fun _ => rfl
  rw [Words.run?_eq_some_iff]
  simp only [hzero, Nat.zero_add, hcounted.count_eq, increments]

/-! ### Bounds -/

/-- What `n` requests can have left in the memory of a server. The changes of registrations and the
notifications come from different requests, there are no more devices than changes, and no
notification counts more than the devices. -/
structure Store.Limited (s : Store) (n : Nat) : Prop where
  requests : s.status.changes + s.notifications.length ≤ n
  devices : s.registrations.entries.length ≤ s.status.changes
  notified : s.status.devicesNotified.total ≤ s.status.changes * s.notifications.length

namespace Store

theorem changes_put (s : Store) (d : Device) :
    (s.put d).status.changes = s.status.changes + 1 := by
  unfold ServerStatus.changes
  rw [devicesAdded_put, devicesUpdated_put, devicesRemoved_put]
  split <;> omega

theorem changes_remove (s : Store) (key : String × String) :
    (s.remove key).status.changes = s.status.changes + 1 := rfl

theorem changes_notify (s : Store) (payload : Json.Value) :
    (s.notify payload).status.changes = s.status.changes := rfl

/-- A notification counts no device twice. -/
theorem total_notify_le (s : Store) (payload : Json.Value) :
    (s.notify payload).status.devicesNotified.total
      ≤ s.status.devicesNotified.total + s.registrations.entries.length := by
  have hfold : (s.notify payload).status.devicesNotified
      = ((s.registrations.entries.filter (reaches payload)).map Device.type).foldl
          countNotified s.status.devicesNotified := rfl
  have hlength := List.length_filter_le (reaches payload) s.registrations.entries
  rw [← Directory.countP_types] at hlength
  rw [hfold, Keeps.foldl_countNotified]
  simp only [NotifiedCounts.total]
  omega

namespace Limited

variable {s : Store} {n : Nat}

theorem empty : Store.empty.Limited 0 := ⟨Nat.le_refl 0, Nat.le_refl 0, Nat.le_refl 0⟩

/-- A request that changes nothing. -/
theorem mono (h : s.Limited n) : s.Limited (n + 1) :=
  ⟨h.requests.trans (Nat.le_succ n), h.devices, h.notified⟩

/-- A registration is a change, and it adds one device at most. -/
theorem put (h : s.Limited n) (d : Device) : (s.put d).Limited (n + 1) := by
  have hrequests := h.requests
  have hdevices := h.devices
  constructor
  · rw [changes_put, notifications_put]
    omega
  · rw [changes_put, registrations_put, Registrations.length_insert]
    split <;> omega
  · -- Nothing was notified, and one more change only makes the product larger.
    rw [changes_put, notifications_put, devicesNotified_put, Nat.add_mul]
    exact h.notified.trans (Nat.le_add_right _ _)

/-- A removal is a change, and it adds no device. -/
theorem remove (h : s.Limited n) (key : String × String) : (s.remove key).Limited (n + 1) := by
  have hrequests := h.requests
  have hdevices := h.devices
  have hlength : (s.remove key).registrations.entries.length ≤ s.registrations.entries.length :=
    List.length_filter_le _ _
  constructor
  · show s.status.changes + 1 + s.notifications.length ≤ n + 1
    omega
  · rw [changes_remove]
    omega
  · rw [changes_remove, Nat.add_mul]
    exact h.notified.trans (Nat.le_add_right _ _)

/-- A notification adds no more than the devices that are there, once more. -/
theorem notify (h : s.Limited n) (payload : Json.Value) : (s.notify payload).Limited (n + 1) := by
  have hrequests := h.requests
  have hdevices := h.devices
  have hnotified := h.notified
  have htotal := total_notify_le s payload
  have hlength : (s.notify payload).notifications.length = s.notifications.length + 1 :=
    List.length_append
  constructor
  · rw [changes_notify, hlength]
    omega
  · exact hdevices
  · -- The product grows by the number of changes, which is at least that of the devices.
    rw [changes_notify, hlength, Nat.mul_succ]
    omega

/-- An answered request stays within the limits of one more: one case for each effect that it can
have. -/
theorem answer (h : s.Limited n) (a : Arrival) : (s.answer a).2.Limited (n + 1) := by
  have heffect := effect_answer s a
  generalize s.answer a = answered at heffect ⊢
  cases heffect with
  | kept => exact h.mono
  | registered => exact h.put _
  | removed => exact h.remove _
  | notified => exact h.notify _

/-- Two different kinds of requests among `n` have a product of `n² / 4` at most. -/
theorem total_le (h : s.Limited n) : s.status.devicesNotified.total ≤ n * n / 4 := by
  have hsquare := four_mul_le_sq_add s.status.changes s.notifications.length
  have hrequests : (s.status.changes + s.notifications.length) ^ 2 ≤ n ^ 2 :=
    Nat.pow_le_pow_left h.requests 2
  rw [Nat.le_div_iff_mul_le (by decide)]
  calc s.status.devicesNotified.total * 4
      ≤ s.status.changes * s.notifications.length * 4 := Nat.mul_le_mul_right 4 h.notified
    _ = 4 * s.status.changes * s.notifications.length := by rw [Nat.mul_comm, Nat.mul_assoc]
    _ ≤ n ^ 2 := hsquare.trans hrequests
    _ = n * n := Nat.pow_two n

/-- In fewer than 2³³ requests no counter outgrows a word. -/
theorem count_lt (h : s.Limited n) (hn : n < 2 ^ 33) (c : Counter) :
    s.status.count c < UInt64.size := by
  have hrequests := h.requests
  have htotal := h.total_le
  -- A product of variables is nothing that `omega` can bound, so its bound comes first.
  have hn' : n ≤ 2 ^ 33 - 1 := Nat.le_sub_one_of_lt hn
  have hsquare : n * n ≤ (2 ^ 33 - 1) * (2 ^ 33 - 1) := Nat.mul_le_mul hn' hn'
  have hsize : UInt64.size = 2 ^ 64 := rfl
  simp only [ServerStatus.changes] at hrequests
  simp only [NotifiedCounts.total] at htotal
  cases c with
  | added =>
      show s.status.devicesAdded < _
      omega
  | removed =>
      show s.status.devicesRemoved < _
      omega
  | updated =>
      show s.status.devicesUpdated < _
      omega
  | notified type =>
      cases type <;> simp only [ServerStatus.count, NotifiedCounts.ofType] <;> omega

/-- Words that are the counters, after fewer than 2³³ requests. -/
theorem exists_words (h : s.Limited n) (hn : n < 2 ^ 33) :
    ∃ w : Words, ∀ c, (w c).toNat = s.status.count c :=
  ⟨fun c => UInt64.ofNat (s.status.count c),
    fun c => UInt64.toNat_ofNat_of_lt' (h.count_lt hn c)⟩

end Limited

end Store

/-- A run stays within the limits of its length. Induction on the requests, for all servers and all
numbers of requests before. -/
theorem limited_serve (arrivals : List Arrival) (server : Server) (n : Nat)
    (h : server.store.Limited n) :
    (serve arrivals server).2.store.Limited (n + arrivals.length) := by
  induction arrivals generalizing server n with
  | nil => exact h
  | cons a rest ih =>
      rw [serve_cons, List.length_cons, Nat.add_comm rest.length, ← Nat.add_assoc]
      exact ih (server.handle a).2 (n + 1) (h.answer a)

theorem limited_serve_fresh (arrivals : List Arrival) :
    (serve arrivals Server.fresh).2.store.Limited arrivals.length := by
  have hrun := limited_serve arrivals Server.fresh 0 .empty
  rw [Nat.zero_add] at hrun
  exact hrun

/-- The counters of a server after any `n` requests, whatever they are. At most `n` devices were
added, updated or removed, and at most `n² / 4` were notified on all platforms together. If `n` is
less than 2³³, a server that counts in 64-bit words does all its increments without an overflow, and
its words are the counters. -/
theorem counters_in_range (arrivals : List Arrival) :
    let n := arrivals.length
    let s := (serve arrivals Server.fresh).2.store
    s.status.devicesAdded + s.status.devicesUpdated + s.status.devicesRemoved ≤ n ∧
      s.status.devicesNotified.aps + s.status.devicesNotified.c2dm + s.status.devicesNotified.gcm
        ≤ n * n / 4 ∧
      (n < 2 ^ 33 → ∃ w : Words, Words.zero.run? (increments arrivals) = some w ∧
        ∀ c, (w c).toNat = s.status.count c) := by
  intro n s
  have hlimited : s.Limited n := limited_serve_fresh arrivals
  refine ⟨(Nat.le_add_right _ _).trans hlimited.requests, hlimited.total_le, ?_⟩
  intro hn
  obtain ⟨w, hword⟩ := hlimited.exists_words hn
  exact ⟨w, run?_increments_eq_some_iff.mpr hword, hword⟩

/-- A device is added, notified and removed again, by its user and by its token at once. -/
theorem counters_in_range_removed :
    let arrivals : List Arrival := [
      ⟨.put, "/v1/users/al/devices/t".toList, none, none,
        Text.Utf8.ofString (Device.toValue ⟨"al", "t", .ios⟩).compact⟩,
      ⟨.post, "/v1/notify".toList, none, none, Text.Utf8.ofString
        ("\x7b\"users\":[\"al\"],\"devices\":[\"t\"]," ++
          "\"aps\":\x7b\x7d,\"c2dm\":\x7b\x7d,\"gcm\":\x7b\x7d\x7d")⟩,
      ⟨.delete, "/v1/users/al/devices/t".toList, none, none, []⟩]
    arrivals.length < 2 ^ 33 ∧ ∃ w : Words, Words.zero.run? (increments arrivals) = some w ∧
      (w .added).toNat = 1 ∧ (w (.notified .ios)).toNat = 1 ∧ (w .removed).toNat = 1 := by
  intro arrivals
  have hlength : arrivals.length < 2 ^ 33 := by decide
  have hstatus : (serve arrivals Server.fresh).2.store.status = ⟨1, 1, 0, ⟨1, 0, 0⟩⟩ := by
    decide +kernel
  obtain ⟨-, -, hwords⟩ := counters_in_range arrivals
  obtain ⟨w, hrun, hcount⟩ := hwords hlength
  rw [hstatus] at hcount
  exact ⟨hlength, w, hrun, hcount .added, hcount (.notified .ios), hcount .removed⟩

end Registry

end PushRegistry
