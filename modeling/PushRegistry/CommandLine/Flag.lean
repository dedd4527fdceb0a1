import PushRegistry.Decimal.Numeral
import PushRegistry.DeviceType

/-!
# `PushRegistry.CommandLine.Flag`: options of the command line

Every option has a short and a long name and takes one value. `Flag.read` checks a value as
soon as it is known to belong to the option.
-/

set_option autoImplicit false

namespace PushRegistry.CommandLine

open PushRegistry.Decimal (Numeral.SignedFault Numeral.SignedFault.message Numeral.signed)

/-- An option. -/
inductive Flag where
  | host
  | port
  /-- The owner of devices. -/
  | user
  /-- A user to notify. -/
  | recipient
  | deviceToken
  /-- A device to notify. -/
  | device
  | deviceType
  | alert
  | badge
  | sound
  | collapseKey
  deriving DecidableEq, Repr

namespace Flag

/-- The short name, after one dash. -/
def short : Flag → Char
  | .host => 'H'
  | .port => 'p'
  | .user => 'u'
  | .recipient => 'u'
  | .deviceToken => 'd'
  | .device => 'd'
  | .deviceType => 't'
  | .alert => 'a'
  | .badge => 'b'
  | .sound => 's'
  | .collapseKey => 'c'

/-- The long name, after two dashes. -/
def long : Flag → String
  | .host => "host"
  | .port => "port"
  | .user => "user"
  | .recipient => "user"
  | .deviceToken => "device-token"
  | .device => "device"
  | .deviceType => "device-type"
  | .alert => "alert"
  | .badge => "badge"
  | .sound => "sound"
  | .collapseKey => "collapse-key"

/-- What stands for the value in texts. -/
def placeholder : Flag → String
  | .host => "HOST"
  | .port => "PORT"
  | .user => "USER"
  | .recipient => "USERS"
  | .deviceToken => "DEVICE_TOKEN"
  | .device => "DEVICES"
  | .deviceType => "DEVICE_TYPE"
  | .alert => "ALERT"
  | .badge => "BADGE"
  | .sound => "SOUND"
  | .collapseKey => "COLLAPSE_KEY"

/-- An option as a message names it. -/
def text (f : Flag) : String := "--" ++ f.long ++ " <" ++ f.placeholder ++ ">"

/-- Whether an option may be given more than once. -/
def isRepeatable : Flag → Bool
  | .recipient => true
  | .device => true
  | _ => false

/-- The values that an option takes. -/
abbrev Value : Flag → Type
  | .port => Nat
  | .deviceType => DeviceType
  | .badge => UInt32
  | _ => String

end Flag

/-- Why an option does not take a value. -/
inductive ValueFault where
  | integer (fault : Numeral.SignedFault)
  /-- An integer that is negative or above the largest one allowed. -/
  | outOfRange (n : Int) (largest : Nat)
  | deviceType (fault : UnknownDeviceType)
  deriving DecidableEq, Repr

/-- The account of a refused value that users see. -/
def ValueFault.message : ValueFault → String
  | .integer fault => fault.message
  | .outOfRange n largest => toString n ++ " is not in 0..=" ++ toString largest
  | .deviceType fault => fault.message

/-- A number from zero to the largest one allowed. -/
def readNumber (largest : Nat) (raw : String) : Except ValueFault Nat :=
  match Numeral.signed raw.toList with
  | .error fault => .error (.integer fault)
  | .ok n =>
    if 0 ≤ n ∧ n ≤ Int.ofNat largest then .ok n.toNat else .error (.outOfRange n largest)

namespace Flag

/-- The value that a word means for an option. -/
def read : (f : Flag) → String → Except ValueFault f.Value
  | .port, raw => readNumber 65535 raw
  | .badge, raw => (readNumber 4294967295 raw).map UInt32.ofNat
  | .deviceType, raw => (DeviceType.parse raw).mapError .deviceType
  | .host, raw => .ok raw
  | .user, raw => .ok raw
  | .recipient, raw => .ok raw
  | .deviceToken, raw => .ok raw
  | .device, raw => .ok raw
  | .alert, raw => .ok raw
  | .sound, raw => .ok raw
  | .collapseKey, raw => .ok raw

end Flag

/-- An option with its value. -/
abbrev Binding := (f : Flag) × f.Value

/-- The values that an option was given, in their order. -/
def valuesOf (f : Flag) (bound : List Binding) : List f.Value :=
  bound.filterMap fun b => if h : b.1 = f then some (h ▸ b.2) else none

/-- The value of an option that is given at most once. -/
def valueOf? (f : Flag) (bound : List Binding) : Option f.Value := (valuesOf f bound).head?

end PushRegistry.CommandLine
