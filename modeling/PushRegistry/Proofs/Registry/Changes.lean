import Mathlib.Data.List.Induction
import PushRegistry.Proofs.Registry.Registrations

/-!
# `PushRegistry.Proofs.Registry.Changes`: registrations as the trace of a history

A history is the list of the changes that a server accepted. `LastPut` and `EntersAt` read it
without replaying it: which pairs of user and token are registered, as what, and since when.
`Reflects` ties a list of registrations to a history, and `Reflects.change` is the step: each
change keeps the two in agreement.
-/

set_option autoImplicit false

namespace PushRegistry.Registry

/-- A change that a server accepted: a registration or a removal. -/
inductive Change where
  | put (key : String × String) (type : DeviceType)
  | delete (key : String × String)
  deriving DecidableEq, Repr

namespace Change

/-- The user and the token that a change is about. -/
def key : Change → String × String
  | .put key _ => key
  | .delete key => key

/-- What a change does to the registrations. -/
def apply (c : Change) (r : Registrations) : Registrations :=
  match c with
  | .put key type => r.insert ⟨key.1, key.2, type⟩
  | .delete key => r.erase key

end Change

variable {cs : List Change} {c : Change} {key : String × String} {type : DeviceType}

/-- The last change of a key is a registration with the given type. -/
def LastPut (cs : List Change) (key : String × String) (type : DeviceType) : Prop :=
  ∃ i : Nat, cs[i]? = some (.put key type) ∧
    ∀ (j : Nat) (c : Change), i < j → cs[j]? = some c → c.key ≠ key

/-- A key has its place from the change at `i` on: that is a registration, no removal comes after
it, and every earlier registration was undone by a removal before it. -/
structure EntersAt (cs : List Change) (key : String × String) (i : Nat) : Prop where
  put : ∃ type, cs[i]? = some (.put key type)
  kept : ∀ j : Nat, i < j → cs[j]? ≠ some (.delete key)
  first : ∀ (j : Nat) (type : DeviceType), j < i → cs[j]? = some (.put key type) →
    ∃ m : Nat, j < m ∧ m < i ∧ cs[m]? = some (.delete key)

/-- One key has had its place for longer than another. -/
def Before (cs : List Change) (a b : String × String) : Prop :=
  ∃ i j, EntersAt cs a i ∧ EntersAt cs b j ∧ i < j

/-! ### One more change -/

/-- A position in a longer history is an old one or the new one. -/
theorem getElem?_concat_iff {i : Nat} {a : Change} :
    (cs ++ [c])[i]? = some a ↔ cs[i]? = some a ∨ (i = cs.length ∧ a = c) := by
  rcases Nat.lt_trichotomy i cs.length with h | h | h
  · rw [List.getElem?_append_left h]
    simp [Nat.ne_of_lt h]
  · subst h
    simp [eq_comm]
  · rw [List.getElem?_eq_none (by simp; omega), List.getElem?_eq_none (by omega)]
    simp only [reduceCtorEq, false_or, false_iff, not_and]
    omega

theorem lt_length_of_getElem?_eq_some {i : Nat} {a : Change} (h : cs[i]? = some a) :
    i < cs.length := (List.getElem?_eq_some_iff.mp h).1

/-- A change of another key does not matter for a key, and a change of the key itself is its
last one from then on. -/
theorem lastPut_concat_iff :
    LastPut (cs ++ [c]) key type ↔
      c = .put key type ∨ (c.key ≠ key ∧ LastPut cs key type) := by
  constructor
  · rintro ⟨i, hput, hlast⟩
    rcases getElem?_concat_iff.mp hput with hold | ⟨-, hnew⟩
    · have hlt := lt_length_of_getElem?_eq_some hold
      refine Or.inr ⟨hlast cs.length c hlt (by simp), i, hold, fun j a hj ha => ?_⟩
      exact hlast j a hj (getElem?_concat_iff.mpr (Or.inl ha))
    · exact Or.inl hnew.symm
  · rintro (rfl | ⟨hkey, i, hput, hlast⟩)
    · -- The new change is the last of all.
      refine ⟨cs.length, by simp, fun j a hj ha => ?_⟩
      have := lt_length_of_getElem?_eq_some ha
      simp at this
      omega
    · refine ⟨i, getElem?_concat_iff.mpr (Or.inl hput), fun j a hj ha => ?_⟩
      rcases getElem?_concat_iff.mp ha with hold | ⟨-, rfl⟩
      · exact hlast j a hj hold
      · exact hkey

theorem not_lastPut_nil : ¬ LastPut [] key type := by
  rintro ⟨i, hput, -⟩
  simp at hput

/-- A key that is not registered at the end had every registration removed again. Induction on
the history from its end. -/
theorem exists_delete_after (hnone : ∀ type, ¬ LastPut cs key type) {j : Nat}
    (hput : cs[j]? = some (.put key type)) : ∃ m : Nat, j < m ∧ cs[m]? = some (.delete key) := by
  induction cs using List.reverseRecOn generalizing j type with
  | nil => simp at hput
  | append_singleton cs c ih =>
      simp only [lastPut_concat_iff, not_or, not_and] at hnone
      rcases getElem?_concat_iff.mp hput with hold | ⟨-, hnew⟩
      · by_cases hkey : c.key = key
        · -- The new change is about the key and no registration, so it is the removal.
          cases c with
          | put key' type' =>
              obtain rfl : key' = key := hkey
              exact absurd rfl (hnone type').1
          | delete key' =>
              obtain rfl : key' = key := hkey
              exact ⟨cs.length, lt_length_of_getElem?_eq_some hold, by simp⟩
        · obtain ⟨m, hm, hdelete⟩ := ih (fun t => (hnone t).2 hkey) hold
          exact ⟨m, hm, getElem?_concat_iff.mpr (Or.inl hdelete)⟩
      · exact absurd hnew.symm (hnone type).1

namespace EntersAt

variable {i : Nat}

theorem lt_length (h : EntersAt cs key i) : i < cs.length := by
  obtain ⟨type, hput⟩ := h.put
  exact lt_length_of_getElem?_eq_some hput

/-- A key keeps its place as long as it is not removed. -/
theorem concat (h : EntersAt cs key i) (hc : c ≠ .delete key) : EntersAt (cs ++ [c]) key i where
  put := by
    obtain ⟨type, hput⟩ := h.put
    exact ⟨type, getElem?_concat_iff.mpr (Or.inl hput)⟩
  kept j hj hdelete := by
    rcases getElem?_concat_iff.mp hdelete with hold | ⟨-, hnew⟩
    · exact h.kept j hj hold
    · exact hc hnew.symm
  first j type hj hput := by
    rcases getElem?_concat_iff.mp hput with hold | ⟨rfl, -⟩
    · obtain ⟨m, hjm, hmi, hdelete⟩ := h.first j type hj hold
      exact ⟨m, hjm, hmi, getElem?_concat_iff.mpr (Or.inl hdelete)⟩
    · exact absurd h.lt_length (by omega)

/-- A key that is not registered enters at the end. -/
theorem concat_put (hnone : ∀ type, ¬ LastPut cs key type) :
    EntersAt (cs ++ [.put key type]) key cs.length where
  put := ⟨type, by simp⟩
  kept j hj hdelete := by
    have := lt_length_of_getElem?_eq_some hdelete
    simp at this
    omega
  first j type' hj hput := by
    rcases getElem?_concat_iff.mp hput with hold | ⟨rfl, -⟩
    · obtain ⟨m, hjm, hdelete⟩ := exists_delete_after hnone hold
      exact ⟨m, hjm, lt_length_of_getElem?_eq_some hdelete,
        getElem?_concat_iff.mpr (Or.inl hdelete)⟩
    · exact absurd hj (by omega)

end EntersAt

/-- A registered key has a place. -/
theorem exists_entersAt (h : LastPut cs key type) : ∃ i, EntersAt cs key i := by
  induction cs using List.reverseRecOn generalizing type with
  | nil => exact absurd h not_lastPut_nil
  | append_singleton cs c ih =>
      rcases lastPut_concat_iff.mp h with rfl | ⟨hkey, hold⟩
      · -- A key that is registered again keeps its place; any other enters with this change.
        by_cases hold : ∃ type', LastPut cs key type'
        · obtain ⟨type', hold⟩ := hold
          obtain ⟨i, hi⟩ := ih hold
          exact ⟨i, hi.concat (by simp)⟩
        · exact ⟨_, EntersAt.concat_put (not_exists.mp hold)⟩
      · obtain ⟨i, hi⟩ := ih hold
        refine ⟨i, hi.concat ?_⟩
        rintro rfl
        exact hkey rfl

namespace Before

theorem concat {a b : String × String} (h : Before cs a b) (ha : c ≠ .delete a)
    (hb : c ≠ .delete b) : Before (cs ++ [c]) a b := by
  obtain ⟨i, j, hi, hj, hlt⟩ := h
  exact ⟨i, j, hi.concat ha, hj.concat hb, hlt⟩

end Before

/-! ### Registrations and histories -/

/-- The registrations are what a history leaves: the keys whose last change is a registration,
each with the type of that one, in the order in which they have had their places. -/
structure Reflects (r : Registrations) (cs : List Change) : Prop where
  mem_iff : ∀ d, d ∈ r.entries ↔ LastPut cs d.key d.type
  ordered : r.keys.Pairwise (Before cs)

namespace Reflects

variable {r : Registrations}

theorem nil : Reflects Registrations.empty [] where
  mem_iff _ := iff_of_false (List.not_mem_nil) not_lastPut_nil
  ordered := List.Pairwise.nil

theorem mem_keys_iff (h : Reflects r cs) : key ∈ r.keys ↔ ∃ type, LastPut cs key type := by
  rw [Registrations.mem_keys_iff]
  constructor
  · rintro ⟨d, hd, rfl⟩
    exact ⟨d.type, (h.mem_iff d).mp hd⟩
  · rintro ⟨type, hlast⟩
    exact ⟨⟨key.1, key.2, type⟩, (h.mem_iff ⟨key.1, key.2, type⟩).mpr hlast, rfl⟩

/-- A registration keeps the agreement. A key that is there stays in its place; a new one comes
after all others, because its place is the end of the history. -/
theorem put (h : Reflects r cs) (d : Device) :
    Reflects (r.insert d) (cs ++ [.put d.key d.type]) where
  mem_iff e := by
    rw [Registrations.mem_insert, lastPut_concat_iff, h.mem_iff]
    have hnew : Change.put d.key d.type = .put e.key e.type ↔ e = d := by
      cases d
      cases e
      simp only [Change.put.injEq, Device.key, Prod.mk.injEq, Device.mk.injEq]
      constructor
      · rintro ⟨⟨h1, h2⟩, h3⟩
        exact ⟨h1.symm, h2.symm, h3.symm⟩
      · rintro ⟨h1, h2, h3⟩
        exact ⟨⟨h1.symm, h2.symm⟩, h3.symm⟩
    rw [hnew, and_comm (b := LastPut cs e.key e.type), Change.key, ne_comm]
  ordered := by
    have hkept : r.keys.Pairwise (Before (cs ++ [.put d.key d.type])) :=
      h.ordered.imp fun hab => hab.concat (by simp) (by simp)
    rw [Registrations.keys_insert]
    by_cases hmem : d.key ∈ r.keys
    · rw [if_pos hmem]
      exact hkept
    · rw [if_neg hmem]
      refine List.pairwise_append.mpr ⟨hkept, List.pairwise_singleton _ _, ?_⟩
      intro a ha b hb
      obtain rfl := List.mem_singleton.mp hb
      -- An old key has its place somewhere in the old history, and the new one at its end.
      obtain ⟨type, hlast⟩ := h.mem_keys_iff.mp ha
      obtain ⟨i, hi⟩ := exists_entersAt hlast
      exact ⟨i, cs.length, hi.concat (by simp),
        EntersAt.concat_put (fun t ht => hmem (h.mem_keys_iff.mpr ⟨t, ht⟩)), hi.lt_length⟩

/-- A removal keeps the agreement: the other keys stay as they are. -/
theorem delete (h : Reflects r cs) (key : String × String) :
    Reflects (r.erase key) (cs ++ [.delete key]) where
  mem_iff e := by
    rw [Registrations.mem_erase, lastPut_concat_iff, h.mem_iff, Change.key]
    simp only [reduceCtorEq, false_or]
    rw [and_comm, ne_comm]
  ordered := by
    rw [Registrations.keys_erase, List.pairwise_filter]
    refine h.ordered.imp fun hab ha hb => hab.concat ?_ ?_
    · rintro ⟨⟩
      simp at ha
    · rintro ⟨⟩
      simp at hb

/-- Every change keeps registrations and history in agreement. -/
theorem change (h : Reflects r cs) (c : Change) : Reflects (c.apply r) (cs ++ [c]) := by
  cases c with
  | put key type => exact h.put ⟨key.1, key.2, type⟩
  | delete key => exact h.delete key

end Reflects

end PushRegistry.Registry
