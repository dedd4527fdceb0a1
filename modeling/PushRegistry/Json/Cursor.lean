import PushRegistry.Json.Fault

/-!
# `PushRegistry.Json.Cursor`: moving over a text

A `Reader` takes bytes from the front of a text and remembers where it stands. When it fails
the place is kept as well, because the reader of an enclosing value still tries to close it
before it reports where the fault was found.
-/

set_option autoImplicit false

namespace PushRegistry.Json

/-- The bytes that are left and the place of the first of them. -/
structure Cursor where
  rest : List UInt8
  line : Nat
  column : Nat
  deriving DecidableEq, Repr

namespace Cursor

/-- The start of a text. -/
def start (bytes : List UInt8) : Cursor := ⟨bytes, 1, 0⟩

/-- The place before the next byte. -/
def position (c : Cursor) : Position := ⟨c.line, c.column⟩

/-- Moves over one byte. At the end of the text it stays. -/
def advance (c : Cursor) : Cursor :=
  match c.rest with
  | [] => c
  | b :: rest => if b = 0x0a then ⟨rest, c.line + 1, 0⟩ else ⟨rest, c.line, c.column + 1⟩

/-- Moves over several bytes. -/
def advanceBy : Nat → Cursor → Cursor
  | 0, c => c
  | n + 1, c => advanceBy n c.advance

/-- The place after the next byte, if there is one. -/
def positionAhead (c : Cursor) : Position := c.advance.position

end Cursor

/-- A computation that reads from the front of a text. -/
abbrev Reader := EStateM Fault Cursor

namespace Reader

variable {α β : Type}

/-- The next byte, which stays. -/
def peek : Reader (Option UInt8) := do return (← get).rest.head?

/-- Moves over the next byte. -/
def skip : Reader Unit := modify Cursor.advance

/-- Takes the next byte. -/
def next : Reader (Option UInt8) := do
  let b ← peek
  skip
  return b

/-- Fails where the reader stands. -/
def fail (cause : Cause) : Reader α := do throw ⟨cause, some (← get).position⟩

/-- Fails after the next byte. -/
def failAhead (cause : Cause) : Reader α := do throw ⟨cause, some (← get).positionAhead⟩

/-- Fails at a place that the reader of the enclosing value decides. -/
def failUnlocated (cause : Cause) : Reader α := throw ⟨cause, none⟩

/-- Gives a fault that has no place yet the one where the reader stands. -/
def located (reader : Reader α) : Reader α :=
  tryCatch reader fun fault =>
    match fault.position with
    | some _ => throw fault
    | none => fail fault.cause

/-- Runs `body` and then `close`. When `body` fails, `close` only moves the reader. -/
def closing (body : Reader α) (close : Reader Unit) : Reader α := do
  let result ← tryCatch (body >>= fun a => pure (.ok a)) fun fault => pure (Except.error fault)
  match result with
  | .ok a =>
    close
    return a
  | .error fault =>
    tryCatch close fun _ => pure ()
    throw fault

/-- Whether a byte is a blank between tokens. -/
def isBlank (b : UInt8) : Bool := b == 0x20 || b == 0x0a || b == 0x09 || b == 0x0d

/-- Moves over the bytes at the front that satisfy a condition, and returns them. -/
def takeWhile (keep : UInt8 → Bool) : Reader (List UInt8) := do
  let run := (← get).rest.takeWhile keep
  modify (Cursor.advanceBy run.length)
  return run

/-- Moves over blanks and looks at the byte behind them. -/
def token : Reader (Option UInt8) := do
  let _ ← takeWhile isBlank
  peek

/-- Runs a reader on a text. -/
def run (reader : Reader α) (bytes : List UInt8) : Except Fault α :=
  match EStateM.run reader (Cursor.start bytes) with
  | .ok a _ => .ok a
  | .error fault _ => .error fault

end Reader

end PushRegistry.Json
