/-!
# `PushRegistry.Text.Scan`: reading from the front of a text

A `Scan` takes characters from the front of a text and may fail, in which case it has taken
nothing. Alternatives are tried in order.
-/

set_option autoImplicit false

namespace PushRegistry.Text

/-- A computation that takes characters from the front of a text. -/
abbrev Scan := StateT (List Char) Option

namespace Scan

variable {α : Type}

/-- The next character, which stays. -/
def peek : Scan (Option Char) := do return (← get).head?

/-- Takes the next character. -/
def next : Scan Char := do
  match ← get with
  | c :: rest =>
    set rest
    return c
  | [] => failure

/-- Takes a given character. -/
def char (expected : Char) : Scan Unit := do
  if (← next) = expected then pure () else failure

/-- Takes a given text. -/
def literal (expected : String) : Scan Unit := expected.toList.forM char

/-- Takes the next character if it satisfies a condition. -/
def satisfy (accept : Char → Bool) : Scan Char := do
  let c ← next
  if accept c then return c else failure

/-- Takes characters as long as they satisfy a condition. -/
def takeWhile (accept : Char → Bool) : Scan (List Char) := do
  let cs ← get
  set (cs.dropWhile accept)
  return cs.takeWhile accept

/-- Passes characters as long as they satisfy a condition. -/
def skipWhile (accept : Char → Bool) : Scan Unit := modify (·.dropWhile accept)

/-- Takes at least one character, and more as long as they satisfy a condition. -/
def takeSome (accept : Char → Bool) : Scan (List Char) := do
  let cs ← takeWhile accept
  if cs.isEmpty then failure else return cs

/-- Takes a number of characters that all satisfy a condition. -/
def count : Nat → (Char → Bool) → Scan (List Char)
  | 0, _ => return []
  | n + 1, accept => do return (← satisfy accept) :: (← count n accept)

/-- Reads something if it is there. -/
def option (scan : Scan α) : Scan (Option α) := (some <$> scan) <|> pure none

/-- Reads something as often as it is there, at most a number of times. -/
def many (scan : Scan α) : Nat → Scan (List α)
  | 0 => return []
  | n + 1 => do
    match ← option scan with
    | some a => return a :: (← many scan n)
    | none => return []

/-- The end of the text. -/
def atEnd : Scan Unit := do if (← get).isEmpty then pure () else failure

/-- What a scan makes of a whole text. -/
def whole (scan : Scan α) (cs : List Char) : Option α :=
  match (do
    let a ← scan
    atEnd
    return a : Scan α).run cs with
  | some (a, _) => some a
  | none => none

end Scan

end PushRegistry.Text
