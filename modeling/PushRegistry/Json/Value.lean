import PushRegistry.Decimal.Shortest
import PushRegistry.Json.Members

/-!
# `PushRegistry.Json.Value`: JSON documents

Numbers are either integers or doubles, as their text decides. Objects that were read hold
their members in ascending order of the keys; objects built to be printed may hold them in
any order.
-/

set_option autoImplicit false

namespace PushRegistry.Json

open PushRegistry.Decimal (Binary64)

/-- A JSON number. -/
inductive Number where
  | int (n : Int)
  | float (x : Binary64)
  deriving DecidableEq, Repr

/-- A JSON document. -/
inductive Value where
  | null
  | bool (b : Bool)
  | number (n : Number)
  | string (s : String)
  | array (items : List Value)
  | object (members : List (String × Value))
  deriving Repr, BEq

namespace Value

/-- An integer. -/
def int (n : Int) : Value := .number (.int n)

/-- A number that is not negative. -/
def nat (n : Nat) : Value := int (Int.ofNat n)

/-- A string, or null if there is none. -/
def ofOptionString : Option String → Value
  | some s => .string s
  | none => .null

/-- The members of an object. -/
def members? : Value → Option (Members Value)
  | .object ms => some ms
  | _ => none

/-- The items of an array. -/
def items? : Value → Option (List Value)
  | .array items => some items
  | _ => none

/-- The text of a string. -/
def string? : Value → Option String
  | .string s => some s
  | _ => none

/-- The member of an object with the given name. -/
def member? (v : Value) (name : String) : Option Value :=
  v.members?.bind (·.get? name)

end Value

end PushRegistry.Json
