import PushRegistry.Device

/-!
# `PushRegistry.Registry.Registrations`: the devices of a server

Registrations stand in the order in which they were first made, one for each pair of user and
token. Registering a pair again replaces its entry in place.
-/

set_option autoImplicit false

namespace PushRegistry

/-- What identifies a registration: the user and the token. -/
def Device.key (d : Device) : String × String := (d.user, d.token)

namespace Registry

/-- The registered devices, with pairwise different keys. -/
structure Registrations where
  entries : List Device
  nodup : (entries.map Device.key).Nodup
  deriving DecidableEq

namespace Registrations

/-- Nothing is registered. -/
def empty : Registrations := ⟨[], List.nodup_nil⟩

/-- The device with a key. -/
def find? (r : Registrations) (key : String × String) : Option Device :=
  r.entries.find? (·.key = key)

/-- Whether a key is registered. -/
def contains (r : Registrations) (key : String × String) : Bool :=
  (r.entries.map Device.key).contains key

/-- The devices of a user. -/
def ofUser (r : Registrations) (user : String) : List Device :=
  r.entries.filter (·.user = user)

/-- The entry that stands in the place of `e` after `d` was registered. -/
def replaced (d e : Device) : Device := if e.key = d.key then d else e

theorem key_replaced (d e : Device) : (replaced d e).key = e.key := by
  unfold replaced
  split
  · next h => exact h.symm
  · rfl

theorem map_key_replaced (d : Device) (es : List Device) :
    (es.map (replaced d)).map Device.key = es.map Device.key := by
  simp [Function.comp_def, key_replaced]

/-- Registers a device: in the place of the entry with its key, or else at the end. -/
def insert (r : Registrations) (d : Device) : Registrations :=
  if h : r.contains d.key then
    ⟨r.entries.map (replaced d), by rw [map_key_replaced]; exact r.nodup⟩
  else
    ⟨r.entries ++ [d], by
      simp only [List.map_append, List.map_cons, List.map_nil]
      refine List.nodup_append.2 ⟨r.nodup, by simp, ?_⟩
      intro a ha b hb hab
      simp only [List.mem_singleton] at hb
      subst hb hab
      exact h (by simpa [contains] using ha)⟩

/-- Removes the entry with a key; the others keep their order. -/
def erase (r : Registrations) (key : String × String) : Registrations :=
  ⟨r.entries.filter (·.key ≠ key), r.nodup.sublist (List.filter_sublist.map _)⟩

end Registrations

end Registry

end PushRegistry
