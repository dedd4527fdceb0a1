import PushRegistry.Http.Message
import PushRegistry.Text.Percent

/-!
# `PushRegistry.Registry.Route`: which resource a path names

Paths are matched segment by segment while they are still encoded. Identifiers are decoded
afterwards and may be empty, except that a token at the end of a path may not.
-/

set_option autoImplicit false

namespace PushRegistry.Registry

open PushRegistry.Http (Method)
open PushRegistry.Text

/-- A resource of a server, with its identifiers still encoded. -/
inductive Route where
  | devices (user : List Char)
  | device (user token : List Char)
  | notify
  | status
  deriving DecidableEq, Repr

namespace Route

/-- The segments of a path behind its first slash. -/
def segments (path : List Char) : List (List Char) :=
  match path with
  | '/' :: rest => rest.splitOn '/'
  | _ => []

/-- The resource that a path names. -/
def ofPath? (path : List Char) : Option Route :=
  match segments path with
  | [a] => if a = "status".toList then some .status else none
  | [a, b] => if a = "v1".toList ∧ b = "notify".toList then some .notify else none
  | [a, b, user, d] =>
    if a = "v1".toList ∧ b = "users".toList ∧ d = "devices".toList then some (.devices user)
    else none
  | [a, b, user, d, token] =>
    if a = "v1".toList ∧ b = "users".toList ∧ d = "devices".toList ∧ token ≠ [] then
      some (.device user token)
    else none
  | _ => none

/-- The methods that a resource answers, as a refusal lists them. -/
def allowed : Route → List Method
  | .devices _ => [.get, .head]
  | .device _ _ => [.get, .head, .put, .delete]
  | .notify => [.post]
  | .status => [.get, .head]

/-- The list of the allowed methods as a header. -/
def allowHeader (r : Route) : String := ",".intercalate (r.allowed.map Method.name)

end Route

/-- Decodes an identifier; the fault is its name in the path. -/
def decodeIdentifier (name : String) (encoded : List Char) : Except String String :=
  match Percent.decodeString? encoded with
  | some s => .ok s
  | none => .error name

end PushRegistry.Registry
