import Mathlib.Data.List.Induction
import Mathlib.Data.List.Sort
import PushRegistry.Json.Members

/-!
# `PushRegistry.Proofs.Json.Members`: maps bound from lists of pairs

`Members.ofList` binds pairs one after the other. Of pairs with different keys each is found again
(`Members.get?_ofList`), of pairs with the same key the last (`Members.get?_ofList_reverse`), and
pairs in the order of their keys stay as they are (`Members.ofList_of_sorted`). Maps in this order
are determined by what is found in them (`Members.eq_of_get?`).
-/

set_option autoImplicit false

namespace PushRegistry.Json.Members

variable {α : Type}

theorem get?_insert (key name : String) (value : α) (members : Members α) :
    (members.insert key value).get? name = if name = key then some value else members.get? name := by
  by_cases h : name = key
  · subst h
    rw [if_pos rfl, get?_insert_self]
  · rw [if_neg h]
    have hkey : (name == key) = false := by simpa using h
    induction members with
    | nil => simp [insert, get?, List.lookup_cons, hkey]
    | cons p rest ih =>
        obtain ⟨k, v⟩ := p
        unfold insert
        split
        · next heq =>
          subst heq
          simp [get?, List.lookup_cons, hkey]
        · split
          · simp [get?, List.lookup_cons, hkey]
          · simp only [get?, List.lookup_cons]
            cases name == k with
            | true => rfl
            | false => exact ih

/-- What was set under a name comes before what was there. -/
theorem get?_insert_or (key name : String) (value : α) (members : Members α) :
    (members.insert key value).get? name
      = (if name = key then some value else none).or (members.get? name) := by
  rw [get?_insert]
  split
  · rfl
  · rfl

theorem get?_cons (key name : String) (value : α) (members : Members α) :
    get? ((key, value) :: members) name = if name = key then some value else members.get? name := by
  rw [get?, List.lookup_cons]
  by_cases h : name = key
  · simp [h]
  · have hbeq : (name == key) = false := by simpa using h
    rw [hbeq, if_neg h]
    rfl

/-- Nothing is found under a key that does not occur. -/
theorem get?_of_not_mem {members : Members α} {name : String} (h : name ∉ members.map Prod.fst) :
    members.get? name = none := by
  rw [get?, List.lookup_eq_none_iff]
  rintro ⟨key, value⟩ hp
  have hne : name ≠ key := by
    rintro rfl
    exact h (List.mem_map.mpr ⟨(name, value), hp, rfl⟩)
  simpa using hne

/-- Of pairs with different keys each one is found under its key. -/
theorem get?_ofList {pairs : List (String × α)} (h : (pairs.map Prod.fst).Nodup) (name : String) :
    (ofList pairs).get? name = pairs.lookup name := by
  -- What is bound later hides what is bound already.
  have hfold : ∀ (rest : List (String × α)) (acc : Members α), (rest.map Prod.fst).Nodup →
      (rest.foldl (fun acc p => acc.insert p.1 p.2) acc).get? name
        = (rest.lookup name).or (acc.get? name) := by
    intro rest
    induction rest with
    | nil => intro acc _; rfl
    | cons p rest ih =>
        obtain ⟨k, v⟩ := p
        intro acc hnodup
        obtain ⟨hk, hrest⟩ := List.nodup_cons.mp hnodup
        rw [List.foldl_cons, ih _ hrest, get?_insert]
        by_cases hname : name = k
        · -- The key does not occur again.
          have hnone : rest.lookup name = none := get?_of_not_mem (hname ▸ hk)
          rw [hnone, if_pos hname, hname, List.lookup_cons_self]
          rfl
        · have hbeq : (name == k) = false := by simpa using hname
          rw [if_neg hname, List.lookup_cons, hbeq]
  rw [ofList, hfold pairs [] h]
  exact Option.or_none

/-- Of the values given under a name the last one is found. -/
theorem get?_ofList_reverse (pairs : List (String × α)) (name : String) :
    (ofList pairs).get? name = pairs.reverse.lookup name := by
  induction pairs using List.reverseRecOn with
  | nil => rfl
  | append_singleton rest p ih =>
      obtain ⟨k, v⟩ := p
      rw [ofList, List.foldl_append, List.reverse_append]
      show (insert k v (ofList rest)).get? name = List.lookup name ((k, v) :: rest.reverse)
      rw [get?_insert, ih, List.lookup_cons]
      by_cases hname : name = k
      · simp [hname]
      · have hbeq : (name == k) = false := by simpa using hname
        rw [if_neg hname, hbeq]

/-! ### Order -/

theorem sorted_nil : Sorted ([] : Members α) := List.Pairwise.nil

theorem mem_insert {key : String} {value : α} {members : Members α} {p : String × α}
    (h : p ∈ members.insert key value) : p = (key, value) ∨ p ∈ members := by
  induction members with
  | nil => exact Or.inl (List.mem_singleton.mp h)
  | cons q rest ih =>
      obtain ⟨k, v⟩ := q
      unfold insert at h
      split at h
      · rcases List.mem_cons.mp h with rfl | h
        · exact Or.inl rfl
        · exact Or.inr (List.mem_cons_of_mem _ h)
      · split at h
        · exact List.mem_cons.mp h
        · rcases List.mem_cons.mp h with rfl | h
          · exact Or.inr List.mem_cons_self
          · exact (ih h).imp_right (List.mem_cons_of_mem _)

/-- However the keys come, the map stays in their order. -/
theorem sorted_insert {members : Members α} (h : members.Sorted) (key : String) (value : α) :
    (members.insert key value).Sorted := by
  induction members with
  | nil => exact List.pairwise_singleton _ _
  | cons q rest ih =>
      obtain ⟨k, v⟩ := q
      obtain ⟨hfirst, hrest⟩ := List.pairwise_cons.mp h
      unfold insert
      split
      · next heq =>
        subst heq
        exact List.pairwise_cons.mpr ⟨hfirst, hrest⟩
      · next hne =>
        split
        · next hlt =>
          refine List.pairwise_cons.mpr ⟨?_, h⟩
          intro p hp
          rcases List.mem_cons.mp hp with rfl | hp
          · exact hlt
          · exact String.lt_trans hlt (hfirst p hp)
        · next hle =>
          -- The key comes behind the first one, and so does all that was there.
          have hlt : k < key := Std.lt_of_le_of_ne (String.not_lt.mp hle) (Ne.symm hne)
          refine List.pairwise_cons.mpr ⟨?_, ih hrest⟩
          intro p hp
          rcases mem_insert hp with rfl | hp
          · exact hlt
          · exact hfirst p hp

/-- What is bound from pairs is in the order of the keys. -/
theorem sorted_ofList (pairs : List (String × α)) : (ofList pairs).Sorted := by
  induction pairs using List.reverseRecOn with
  | nil => exact sorted_nil
  | append_singleton rest p ih =>
      rw [ofList, List.foldl_append]
      exact sorted_insert ih p.1 p.2

/-- Keys that ascend strictly are all different. -/
theorem Sorted.nodup {members : Members α} (h : members.Sorted) :
    (members.map Prod.fst).Nodup := by
  refine List.pairwise_map.mpr (h.imp fun {a b} hlt heq => ?_)
  rw [heq] at hlt
  exact String.lt_irrefl _ hlt

/-- Binding a key behind all others appends it. -/
theorem insert_of_lt {key : String} {members : Members α} (h : ∀ p ∈ members, p.1 < key)
    (value : α) : members.insert key value = members ++ [(key, value)] := by
  induction members with
  | nil => rfl
  | cons p rest ih =>
      obtain ⟨k, v⟩ := p
      have hlt : k < key := h (k, v) List.mem_cons_self
      have hne : ¬ key = k := by
        rintro rfl
        exact String.lt_irrefl _ hlt
      rw [insert, if_neg hne, if_neg (String.lt_asymm hlt),
        ih fun q hq => h q (List.mem_cons_of_mem _ hq), List.cons_append]

/-- Members in the order of their keys are bound as they stand. -/
theorem ofList_of_sorted {members : Members α} (h : members.Sorted) : ofList members = members := by
  have hfold : ∀ (rest acc : Members α), (acc ++ rest).Sorted →
      rest.foldl (fun acc p => acc.insert p.1 p.2) acc = acc ++ rest := by
    intro rest
    induction rest with
    | nil => intro acc _; exact (List.append_nil acc).symm
    | cons p rest ih =>
        intro acc hsorted
        -- Everything that is bound already comes before the next key.
        have hlast : ∀ q ∈ acc, q.1 < p.1 := fun q hq =>
          (List.pairwise_append.mp hsorted).2.2 q hq p List.mem_cons_self
        have happend : acc ++ p :: rest = acc ++ [p] ++ rest := by simp
        rw [List.foldl_cons, insert_of_lt hlast, happend]
        exact ih _ (happend ▸ hsorted)
  exact hfold members [] h

/-- A map has an entry if and only if the entry is found under its name. -/
theorem mem_iff_get? {members : Members α} (h : members.Sorted) {name : String} {value : α} :
    (name, value) ∈ members ↔ members.get? name = some value := by
  induction members with
  | nil => simp [get?]
  | cons q rest ih =>
      obtain ⟨k, v⟩ := q
      obtain ⟨hfirst, hrest⟩ := List.pairwise_cons.mp h
      have hrest := ih hrest
      rw [get?] at hrest
      rw [List.mem_cons, hrest, get?]
      by_cases hname : name = k
      · subst hname
        -- The names behind the first one are greater.
        have hnot : rest.lookup name ≠ some value := by
          intro hget
          exact String.lt_irrefl name (hfirst _ (hrest.mpr hget))
        simp [hnot, eq_comm]
      · have hbeq : (name == k) = false := by simpa using hname
        simp [List.lookup_cons, hbeq, hname]

/-- Maps that hold the same under every name are the same. -/
theorem eq_of_get? {members others : Members α} (h : members.Sorted) (h' : others.Sorted)
    (hget : ∀ name, members.get? name = others.get? name) : members = others := by
  -- The order of the names is strict, so lists in this order are equal if their entries are.
  have : Std.Irrefl fun a b : String × α => a.1 < b.1 := ⟨fun a => String.lt_irrefl a.1⟩
  have : Std.Antisymm fun a b : String × α => a.1 < b.1 :=
    ⟨fun a b hab hba => absurd hba (String.lt_asymm hab)⟩
  refine List.Pairwise.eq_of_mem_iff h h' fun p => ?_
  rw [mem_iff_get? h, mem_iff_get? h', hget]

end PushRegistry.Json.Members
