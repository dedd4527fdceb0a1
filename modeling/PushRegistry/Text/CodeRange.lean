/-!
# `PushRegistry.Text.CodeRange`: tables of characters

A class of characters is a list of ranges of code points, both ends included, in ascending order.
-/

set_option autoImplicit false

namespace PushRegistry.Text

/-- An inclusive range of code points. -/
abbrev CodeRange := Nat × Nat

/-- Whether a character lies in one of the ranges. -/
def CodeRange.hasAny (table : List CodeRange) (c : Char) : Bool :=
  table.any fun r => r.1 ≤ c.toNat && c.toNat ≤ r.2

end PushRegistry.Text
