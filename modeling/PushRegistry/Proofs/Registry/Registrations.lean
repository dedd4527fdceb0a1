import Mathlib.Data.List.Nodup
import PushRegistry.Registry.Registrations

/-!
# `PushRegistry.Proofs.Registry.Registrations`: what the list of registrations holds

Membership and order after `insert` and `erase`. The keys of the entries are all different, so
an entry is determined by its key, and `keys_insert` and `keys_erase` say where each key stands.
-/

set_option autoImplicit false

namespace PushRegistry.Registry.Registrations

variable {r : Registrations} {d e : Device} {key : String × String}

/-- The keys of the entries, in order. -/
def keys (r : Registrations) : List (String × String) := r.entries.map Device.key

theorem contains_iff : r.contains key = true ↔ key ∈ r.keys := by
  rw [contains, keys, List.contains_iff_mem]

theorem mem_keys_iff : key ∈ r.keys ↔ ∃ d ∈ r.entries, d.key = key := by
  rw [keys, List.mem_map]

theorem key_mem_keys (h : d ∈ r.entries) : d.key ∈ r.keys := List.mem_map_of_mem h

/-! ### Registering -/

theorem entries_insert_of_mem (h : d.key ∈ r.keys) :
    (r.insert d).entries = r.entries.map (replaced d) := by
  rw [insert, dif_pos (contains_iff.mpr h)]

theorem entries_insert_of_not_mem (h : d.key ∉ r.keys) :
    (r.insert d).entries = r.entries ++ [d] := by
  rw [insert, dif_neg (fun hc => h (contains_iff.mp hc))]

/-- A registration leaves all keys where they are and appends its own if it is new. -/
theorem keys_insert : (r.insert d).keys = if d.key ∈ r.keys then r.keys else r.keys ++ [d.key] := by
  by_cases h : d.key ∈ r.keys
  · rw [if_pos h, keys, entries_insert_of_mem h, map_key_replaced, keys]
  · rw [if_neg h, keys, entries_insert_of_not_mem h, List.map_append, keys]
    rfl

/-- After a registration its device is there, and so are the entries with other keys. -/
theorem mem_insert : e ∈ (r.insert d).entries ↔ e = d ∨ (e ∈ r.entries ∧ e.key ≠ d.key) := by
  by_cases h : d.key ∈ r.keys
  · rw [entries_insert_of_mem h, List.mem_map]
    constructor
    · rintro ⟨a, ha, rfl⟩
      unfold replaced
      by_cases hkey : a.key = d.key
      · exact Or.inl (if_pos hkey)
      · rw [if_neg hkey]
        exact Or.inr ⟨ha, hkey⟩
    · rintro (rfl | ⟨he, hkey⟩)
      · obtain ⟨a, ha, hkey⟩ := mem_keys_iff.mp h
        exact ⟨a, ha, if_pos hkey⟩
      · exact ⟨e, he, if_neg hkey⟩
  · rw [entries_insert_of_not_mem h, List.mem_append, List.mem_singleton]
    constructor
    · rintro (he | rfl)
      · exact Or.inr ⟨he, fun hkey => h (hkey ▸ key_mem_keys he)⟩
      · exact Or.inl rfl
    · rintro (rfl | ⟨he, -⟩)
      · exact Or.inr rfl
      · exact Or.inl he

theorem length_insert :
    (r.insert d).entries.length = r.entries.length + if r.contains d.key then 0 else 1 := by
  by_cases h : r.contains d.key = true
  · rw [if_pos h, entries_insert_of_mem (contains_iff.mp h), List.length_map, Nat.add_zero]
  · rw [if_neg h, entries_insert_of_not_mem (mt contains_iff.mpr h), List.length_append,
      List.length_singleton]

/-! ### Removing -/

theorem mem_erase : e ∈ (r.erase key).entries ↔ e ∈ r.entries ∧ e.key ≠ key := by
  rw [erase, List.mem_filter, decide_eq_true_iff]

/-- A removal leaves all other keys in their order. -/
theorem keys_erase : (r.erase key).keys = r.keys.filter (· ≠ key) := by
  rw [keys, keys, erase, List.filter_map]
  rfl

/-- A removal takes one entry away, because no key occurs twice. -/
theorem length_erase (h : key ∈ r.keys) :
    (r.erase key).entries.length + 1 = r.entries.length := by
  have hlength : ∀ r : Registrations, r.entries.length = r.keys.length := by
    intro r
    rw [keys, List.length_map]
  have hnodup : r.keys.Nodup := r.nodup
  have hkeys : (r.erase key).keys = r.keys.erase key := by
    rw [keys_erase, hnodup.erase_eq_filter key]
    refine List.filter_congr fun k _ => ?_
    rw [Bool.eq_iff_iff, decide_eq_true_iff, bne_iff_ne]
  have hpos : 0 < r.keys.length := List.length_pos_of_mem h
  rw [hlength, hlength, hkeys, List.length_erase_of_mem h]
  omega

/-! ### The devices of a user -/

theorem mem_ofUser {user : String} : d ∈ r.ofUser user ↔ d ∈ r.entries ∧ d.user = user := by
  rw [ofUser, List.mem_filter, decide_eq_true_iff]

/-- Within the list of a user, tokens are as different as keys. -/
theorem nodup_tokens_ofUser {user : String} : ((r.ofUser user).map Device.token).Nodup := by
  have hkeys : r.entries.Pairwise (fun d e => d.key ≠ e.key) := List.pairwise_map.mp r.nodup
  refine List.pairwise_map.mpr ((hkeys.filter _).imp_of_mem ?_)
  intro d e hd he hkey htoken
  have hd' : d.user = user := (mem_ofUser.mp hd).2
  have he' : e.user = user := (mem_ofUser.mp he).2
  exact hkey (Prod.ext (hd'.trans he'.symm) htoken)

/-- A device looked up by user and token is the one with that token in the list of the user. -/
theorem find?_eq_find?_ofUser {user token : String} :
    r.find? (user, token) = (r.ofUser user).find? (·.token = token) := by
  rw [find?, ofUser, List.find?_filter]
  simp only [Device.key, Prod.mk.injEq, Bool.decide_and, Bool.decide_eq_true]

/-! The list of a user changes only with registrations and removals of that user, and how it changes
depends on nothing but the list itself. -/

section OfUser

variable {r' : Registrations} {user : String}

theorem user_replaced (d e : Device) : (replaced d e).user = e.user :=
  congrArg Prod.fst (key_replaced d e)

theorem ofUser_insert_of_mem (h : d.key ∈ r.keys) :
    (r.insert d).ofUser user = (r.ofUser user).map (replaced d) := by
  rw [ofUser, entries_insert_of_mem h, List.filter_map, ofUser]
  refine congrArg _ (List.filter_congr fun e _ => ?_)
  rw [Function.comp_apply, user_replaced]

theorem ofUser_insert_of_not_mem (h : d.key ∉ r.keys) :
    (r.insert d).ofUser user = r.ofUser user ++ if d.user = user then [d] else [] := by
  rw [ofUser, entries_insert_of_not_mem h, List.filter_append, List.filter_singleton, ofUser,
    Bool.cond_decide]

theorem ofUser_insert_of_ne (h : d.user ≠ user) : (r.insert d).ofUser user = r.ofUser user := by
  by_cases hkey : d.key ∈ r.keys
  · -- The entry that is replaced is not in the list.
    have hsame : ∀ e ∈ r.ofUser user, replaced d e = e := fun e he =>
      if_neg fun heq => h ((congrArg Prod.fst heq).symm.trans (mem_ofUser.mp he).2)
    rw [ofUser_insert_of_mem hkey, List.map_congr_left hsame, List.map_id']
  · rw [ofUser_insert_of_not_mem hkey, if_neg h, List.append_nil]

theorem ofUser_erase {key : String × String} :
    (r.erase key).ofUser user = (r.ofUser user).filter (·.key ≠ key) := by
  rw [ofUser, erase, List.filter_comm, ofUser]

theorem ofUser_erase_of_ne (h : key.1 ≠ user) : (r.erase key).ofUser user = r.ofUser user := by
  rw [ofUser_erase, List.filter_eq_self]
  intro e he
  have huser : e.user = user := (mem_ofUser.mp he).2
  exact decide_eq_true fun hkey => h (hkey ▸ huser)

theorem contains_iff_ofUser {token : String} :
    r.contains (user, token) = true ↔ token ∈ (r.ofUser user).map Device.token := by
  rw [contains_iff, mem_keys_iff, List.mem_map]
  constructor
  · rintro ⟨d, hd, hkey⟩
    obtain ⟨huser, htoken⟩ := Prod.mk.inj hkey
    exact ⟨d, mem_ofUser.mpr ⟨hd, huser⟩, htoken⟩
  · rintro ⟨d, hd, htoken⟩
    obtain ⟨hmem, huser⟩ := mem_ofUser.mp hd
    exact ⟨d, hmem, Prod.ext huser htoken⟩

theorem contains_congr (h : r.ofUser user = r'.ofUser user) (token : String) :
    r.contains (user, token) = r'.contains (user, token) := by
  rw [Bool.eq_iff_iff, contains_iff_ofUser, contains_iff_ofUser, h]

theorem find?_congr (h : r.ofUser user = r'.ofUser user) (token : String) :
    r.find? (user, token) = r'.find? (user, token) := by
  rw [find?_eq_find?_ofUser, find?_eq_find?_ofUser, h]

theorem ofUser_insert_congr (h : r.ofUser user = r'.ofUser user) (d : Device) :
    (r.insert d).ofUser user = (r'.insert d).ofUser user := by
  by_cases huser : d.user = user
  · subst huser
    have hcontains : r.contains d.key = r'.contains d.key := contains_congr h d.token
    by_cases hkey : d.key ∈ r.keys
    · have hkey' : d.key ∈ r'.keys := contains_iff.mp (hcontains ▸ contains_iff.mpr hkey)
      rw [ofUser_insert_of_mem hkey, ofUser_insert_of_mem hkey', h]
    · have hkey' : d.key ∉ r'.keys := fun hmem =>
        hkey (contains_iff.mp (hcontains.symm ▸ contains_iff.mpr hmem))
      rw [ofUser_insert_of_not_mem hkey, ofUser_insert_of_not_mem hkey', h]
  · rw [ofUser_insert_of_ne huser, ofUser_insert_of_ne huser, h]

theorem ofUser_erase_congr (h : r.ofUser user = r'.ofUser user) (key : String × String) :
    (r.erase key).ofUser user = (r'.erase key).ofUser user := by
  rw [ofUser_erase, ofUser_erase, h]

end OfUser

end PushRegistry.Registry.Registrations
