import PushRegistry.Decimal.Numeral

/-!
# `PushRegistry.Config.Key`: names of settings

A key is a path: names, entries of tables behind a dot and items of lists in brackets.
Names are compared without regard to case.
-/

set_option autoImplicit false

namespace PushRegistry.Config

open PushRegistry.Decimal

/-- Where a setting stands. -/
inductive Key where
  | name (s : String)
  | entry (parent : Key) (s : String)
  | item (parent : Key) (index : Int)
  deriving DecidableEq, Repr

namespace Key

/-- The characters of names. -/
def isNameChar (c : Char) : Bool := c.isAlphanum || c = ' ' || c = '_' || c = '-'

/-- A blank beside an index. -/
def isBlank (c : Char) : Bool := c = ' ' || c = '\t'

/-- The index in front of a closing bracket, and what follows the bracket. -/
def index? (cs : List Char) : Option (Int × List Char) :=
  let rest := cs.dropWhile isBlank
  let negative := rest.head? = some '-'
  let digits := if negative then rest.drop 1 else rest
  match Numeral.natural? 10 (digits.takeWhile Char.isDigit),
      (digits.dropWhile Char.isDigit).dropWhile isBlank with
  | some n, ']' :: after =>
    let i := if negative then -(Int.ofNat n) else Int.ofNat n
    if Numeral.FitsInt64 i then some (i, after) else none
  | _, _ => none

/-- Continues a path with a text whose length is below the first argument. -/
def extend? : Nat → Key → List Char → Option Key
  | 0, _, _ => none
  | _ + 1, key, [] => some key
  | fuel + 1, key, '.' :: rest =>
    let name := rest.takeWhile isNameChar
    if name.isEmpty then none
    else extend? fuel (.entry key (String.ofList name)) (rest.dropWhile isNameChar)
  | fuel + 1, key, '[' :: rest => do
    let (i, after) ← index? rest
    extend? fuel (.item key i) after
  | _ + 1, _, _ => none

/-- The path that a text writes. -/
def parse? (cs : List Char) : Option Key :=
  let name := cs.takeWhile isNameChar
  let rest := cs.dropWhile isNameChar
  if name.isEmpty then none else extend? (rest.length + 1) (.name (String.ofList name)) rest

/-- The path that a text writes, or the text itself as a name. -/
def ofString (s : String) : Key := (parse? s.toList).getD (.name s)

end Key

end PushRegistry.Config
