import PushRegistry.Text.Percent
import PushRegistry.Url.Ipv4
import PushRegistry.Url.Ipv6

/-!
# `PushRegistry.Url.Host`: hosts

A host is a name or an address. Names are compared without regard to case, so they are kept
in lower case. Other names than plain ASCII ones are mapped to ASCII by tables that are not part
of this library: `Idna` stands for them.
-/

set_option autoImplicit false

namespace PushRegistry

open PushRegistry.Text

/-- Why a text is no URL. -/
inductive UrlFault where
  | emptyHost
  | invalidPort
  | invalidDomain
  | invalidIpv4
  | invalidIpv6
  deriving DecidableEq, Repr

/-- The account of a fault that users see. -/
def UrlFault.message : UrlFault → String
  | .emptyHost => "empty host"
  | .invalidPort => "invalid port number"
  | .invalidDomain => "invalid international domain name"
  | .invalidIpv4 => "invalid IPv4 address"
  | .invalidIpv6 => "invalid IPv6 address"

namespace Url

/-- The mapping of international names to ASCII (UTS 46). -/
class Idna where
  /-- The ASCII form of a name, if it has one. It may be empty. -/
  toAscii? : List Char → Option (List Char)

/-- Without tables no other names than plain ASCII ones are known. -/
@[reducible] def Idna.withoutTables : Idna := ⟨fun _ => none⟩

/-- The host of a URL. -/
inductive Host where
  | domain (name : List Char)
  | ipv4 (address : Nat)
  | ipv6 (pieces : List Nat)
  deriving DecidableEq, Repr

namespace Host

/-- The text of a host. -/
def text : Host → List Char
  | .domain name => name
  | .ipv4 address => Ipv4.text address
  | .ipv6 pieces => '[' :: Ipv6.text pieces ++ [']']

/-! ### Reading -/

/-- Whether a character cannot stand in a name. -/
def forbidden (c : Char) : Bool :=
  c.toNat ≤ 0x20 || c.toNat = 0x7f ||
    ['#', '/', ':', '<', '>', '?', '@', '[', '\\', ']', '^', '|', '%'].contains c

/-- Whether a character is ASCII. -/
def isAscii (c : Char) : Bool := c.toNat < 0x80

/-- Whether a label is meant as the ASCII form of another one. -/
def isMapped (label : List Char) : Bool := (label.take 4).map Char.toLower == "xn--".toList

/-- Whether a name is its own ASCII form, but for the case. -/
def isPlain (name : List Char) : Bool := name.all isAscii && !(name.splitOn '.').any isMapped

variable [Idna]

/-- The ASCII form of a name. A name that was mapped must be fit for a URL as well. -/
def ascii? (name : List Char) : Option (List Char) :=
  if isPlain name then some (name.map Char.toLower)
  else (Idna.toAscii? name).filter fun mapped => mapped.all fun c => isAscii c && !forbidden c

/-- The name that an encoded host stands for. -/
def domain? (cs : List Char) : Option (List Char) := do
  let name ← Utf8.decode? (Percent.decodeChars cs)
  if name.any forbidden then none else ascii? name

/-- Reads a host that is not empty. -/
def parse (cs : List Char) : Except UrlFault Host :=
  match cs with
  | '[' :: rest =>
    if rest.getLast? = some ']' then
      match Ipv6.parse? rest.dropLast with
      | some pieces => .ok (.ipv6 pieces)
      | none => .error .invalidIpv6
    else .error .invalidIpv6
  | _ =>
    match domain? cs with
    | none => .error .invalidDomain
    | some [] => .error .emptyHost
    | some name =>
      if Ipv4.endsInNumber name then
        match Ipv4.parse? name with
        | some address => .ok (.ipv4 address)
        | none => .error .invalidIpv4
      else .ok (.domain name)

end Host

end Url

end PushRegistry
