import PushRegistry.Client.Operation
import PushRegistry.CommandLine.Flag

/-!
# `PushRegistry.CommandLine.Command`: what users can ask for

A command is one operation of the client. Its options are collected first and then put
together in a fixed order, so the order on the command line does not matter.
-/

set_option autoImplicit false

namespace PushRegistry.CommandLine

open PushRegistry.Client (Operation)

/-- The word that chooses a command. -/
inductive Verb where
  | add
  | remove
  | get
  | list
  | notify
  | status
  deriving DecidableEq, Repr

namespace Verb

/-- All verbs in the order of the help. -/
def all : List Verb := [.add, .remove, .get, .list, .notify, .status]

/-- The word itself. -/
def name : Verb → String
  | .add => "add"
  | .remove => "remove"
  | .get => "get"
  | .list => "list"
  | .notify => "notify"
  | .status => "status"

/-- The verb that a word is. -/
def ofName? (word : String) : Option Verb := all.find? (·.name = word)

/-- The options that must be given. -/
def required : Verb → List Flag
  | .add => [.user, .deviceToken, .deviceType]
  | .remove => [.user, .deviceToken]
  | .get => [.user, .deviceToken]
  | .list => [.user]
  | .notify => []
  | .status => []

/-- The options besides those that all commands have. -/
def flags : Verb → List Flag
  | .notify => [.recipient, .device, .alert, .badge, .sound, .collapseKey]
  | verb => verb.required

end Verb

/-- The options of a notification. -/
structure Announcement where
  users : List String
  devices : List String
  alert : Option String
  badge : Option UInt32
  sound : Option String
  collapseKey : Option String
  deriving DecidableEq, Repr

namespace Announcement

/-- The steps that build the notification. -/
def edits (a : Announcement) : List Notification.Edit :=
  [.users a.users, .devices a.devices] ++ (a.alert.map .alert).toList ++
    (a.badge.map .badge).toList ++ (a.sound.map .sound).toList ++
    (a.collapseKey.map .collapseKey).toList

/-- The notification that the options describe. -/
def notification (a : Announcement) : Notification := .build a.edits

/-- Whether anybody is to be notified. -/
def hasRecipients (a : Announcement) : Bool := !a.users.isEmpty || !a.devices.isEmpty

/-- The options of a notification that were given. -/
def ofBindings (bound : List Binding) : Announcement where
  users := valuesOf .recipient bound
  devices := valuesOf .device bound
  alert := valueOf? .alert bound
  badge := valueOf? .badge bound
  sound := valueOf? .sound bound
  collapseKey := valueOf? .collapseKey bound

end Announcement

/-- A command with its options. -/
inductive Command where
  | add (device : Device)
  | remove (user token : String)
  | get (user token : String)
  | list (user : String)
  | notify (announcement : Announcement)
  | status
  deriving DecidableEq, Repr

namespace Command

/-- The operation of a command. -/
def operation : Command → Operation
  | .add device => .add device
  | .remove user token => .remove user token
  | .get user token => .get user token
  | .list user => .list user
  | .notify a => .notify a.notification
  | .status => .status

/-- What it means that a command failed. -/
def failureText : Command → String
  | .add _ => "Failed to add device"
  | .remove _ _ => "Failed to remove device"
  | .get _ _ => "Failed to fetch device"
  | .list _ => "Failed to list devices"
  | .notify _ => "Failed to send notification"
  | .status => "Failed to fetch status"

/-- Why a command is refused before anything is sent, if it is. -/
def objection? : Command → Option String
  | .notify a =>
    if a.hasRecipients then none else some "Please provide at least one --user or --device"
  | _ => none

end Command

/-- A command and the options that all commands have. -/
structure Invocation where
  host : Option String
  port : Option Nat
  command : Command
  deriving DecidableEq, Repr

end PushRegistry.CommandLine
