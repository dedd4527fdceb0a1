import PushRegistry.CommandLine.Arguments

/-!
# `PushRegistry.CommandLine.Help`: texts about the command line

The account of a usage fault, and the help for the program and for each of its verbs.
-/

set_option autoImplicit false

namespace PushRegistry.CommandLine

/-- The name of the program. -/
def programName : String := "postal"

/-- The account of a usage fault, in one line unless a value has more of them. -/
def UsageFault.message : UsageFault → String
  | .nothing => "no arguments"
  | .verbMissing => "'" ++ programName ++ "' requires a subcommand but one was not provided"
  | .unknownVerb word => "unrecognized subcommand '" ++ word ++ "'"
  | .unexpected word => "unexpected argument '" ++ word ++ "' found"
  | .unexpectedValue value =>
    "unexpected value '" ++ value ++ "' for '--" ++ Scope.helpWord ++
      "' found; no more were expected"
  | .valueMissing f => "a value is required for '" ++ f.text ++ "' but none was supplied"
  | .invalidValue f raw fault =>
    "invalid value '" ++ raw ++ "' for '" ++ f.text ++ "': " ++ fault.message
  | .repeated f => "the argument '" ++ f.text ++ "' cannot be used multiple times"
  | .requiredMissing fs =>
    "\n  ".intercalate ("the following required arguments were not provided:" :: fs.map Flag.text)

/-! ### What there is -/

/-- What the program is for. -/
def programAbout : String := "Manage devices registered with a Postal push notification server"

/-- What a verb is for. -/
def Verb.about : Verb → String
  | .add => "Register a device (or update its type)"
  | .remove => "Remove a device"
  | .get => "Show one device"
  | .list => "List all devices of a user"
  | .notify => "Send a notification"
  | .status => "Show server counters"

/-- What the word that asks for help is for. -/
def helpAbout : String := "Print this message or the help of the given subcommand(s)"

/-- What an option of a verb is for. -/
def Flag.about (v : Option Verb) : Flag → String
  | .host => "Hostname of the postal server [default: localhost]"
  | .port => "Port of the postal server [default: 5300]"
  | .user => if v = some .list then "User identifier" else "User identifier owning the device"
  | .recipient => "Notify every device of this user (repeatable)"
  | .deviceToken => "Device token"
  | .device => "Notify this device token (repeatable)"
  | .deviceType => "Device type: aps|c2dm|gcm"
  | .alert => "Alert text shown on APS devices"
  | .badge => "Badge count for APS devices"
  | .sound => "Sound for APS devices"
  | .collapseKey => "Collapse key for Android devices"

/-! ### Layout -/

/-- The lines of a table with two columns. -/
def tableLines (rows : List (String × String)) : List String :=
  let width := (rows.map (·.1.length)).foldl max 0
  rows.map fun r =>
    "  " ++ r.1 ++ String.ofList (List.replicate (width - r.1.length) ' ') ++ "  " ++ r.2

/-- The options of a place in the order of its help. -/
def Scope.listed (scope : Scope) : List Flag :=
  let own := scope.elim [] Verb.flags
  .host :: own.take 2 ++ .port :: own.drop 2

/-- The table of options. -/
def optionLines (scope : Scope) : List String :=
  "Options:" :: tableLines
    (scope.listed.map (fun f =>
      (String.ofList ['-', f.short] ++ ", " ++ f.text, f.about scope)) ++
      [("-h, --help", "Print help")])

/-- The help about a topic, line by line. -/
def Topic.lines : Topic → List String
  | .program =>
    [programAbout, "", "Usage: " ++ programName ++ " [OPTIONS] <COMMAND>", "", "Commands:"] ++
      tableLines (Verb.all.map (fun v => (v.name, v.about)) ++ [(Scope.helpWord, helpAbout)]) ++
      [""] ++ optionLines none
  | .verb v =>
    [v.about, "", " ".intercalate
      (["Usage:", programName, v.name, "[OPTIONS]"] ++ v.required.map Flag.text), ""] ++
      optionLines (some v)
  | .help =>
    [helpAbout, "", "Usage: " ++ programName ++ " " ++ Scope.helpWord ++ " [COMMAND]...", "",
      "Arguments:"] ++ tableLines [("[COMMAND]...", "Print help for the subcommand(s)")]

/-- The help about a topic. -/
def Topic.text (t : Topic) : String := String.join (t.lines.map (· ++ "\n"))

end PushRegistry.CommandLine
