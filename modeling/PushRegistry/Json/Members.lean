/-!
# `PushRegistry.Json.Members`: maps kept in key order

An association list in ascending order of its keys, each key once. Inserting replaces, so
of several values given under one key the last one stays.
-/

set_option autoImplicit false

namespace PushRegistry.Json

/-- A map from strings. -/
abbrev Members (α : Type) := List (String × α)

namespace Members

variable {α : Type}

/-- Binds a key, replacing what it was bound to. -/
def insert (key : String) (value : α) : Members α → Members α
  | [] => [(key, value)]
  | (k, v) :: rest =>
    if key = k then (key, value) :: rest
    else if key < k then (key, value) :: (k, v) :: rest
    else (k, v) :: insert key value rest

/-- The value bound to a key. -/
def get? (members : Members α) (key : String) : Option α := members.lookup key

/-- Binds pairs one after the other, starting from nothing. -/
def ofList (pairs : List (String × α)) : Members α :=
  pairs.foldl (fun acc p => acc.insert p.1 p.2) []

/-- The keys ascend strictly. -/
def Sorted (members : Members α) : Prop := members.Pairwise fun a b => a.1 < b.1

theorem get?_insert_self (key : String) (value : α) (members : Members α) :
    (members.insert key value).get? key = some value := by
  induction members with
  | nil => simp [insert, get?]
  | cons p rest ih =>
    obtain ⟨k, v⟩ := p
    unfold insert
    split
    · simp [get?]
    · split
      · simp [get?]
      · next hne _ =>
        have hk : (key == k) = false := by simpa using hne
        simpa [get?, List.lookup_cons, hk] using ih

end Members

end PushRegistry.Json
