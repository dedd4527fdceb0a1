import PushRegistry.Text.Hex
import PushRegistry.Text.Printable

/-!
# `PushRegistry.Text.Quoted`: strings inside messages

A string that a message reports is put between double quotes with its own quotes,
backslashes and unprintable characters escaped, so that it cannot be mistaken for the rest
of the message.
-/

set_option autoImplicit false

namespace PushRegistry.Text.Quoted

/-- One character between the quotes. -/
def escape (c : Char) : List Char :=
  if c = '\x00' then ['\\', '0']
  else if c = '\t' then ['\\', 't']
  else if c = '\r' then ['\\', 'r']
  else if c = '\n' then ['\\', 'n']
  else if c = '"' then ['\\', '"']
  else if c = '\\' then ['\\', '\\']
  else if Printable.isPrintable c then [c]
  else ['\\', 'u', '\x7b'] ++ Hex.lower c.toNat ++ ['\x7d']

/-- The quoted form of a string. -/
def quote (s : String) : String :=
  String.ofList ('"' :: s.toList.flatMap escape ++ ['"'])

end PushRegistry.Text.Quoted
