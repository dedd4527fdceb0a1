import PushRegistry.CommandLine.Help
import PushRegistry.Config.Load

/-!
# `PushRegistry.CommandLine.Report`: running a command

A run ends with an exit code and what was written. Results go to the output and accounts of
failures to the error output, so the output is a document or empty.
-/

set_option autoImplicit false

namespace PushRegistry.CommandLine

open PushRegistry.Client (Failure Operation)
open PushRegistry.Config (File Settings)
open PushRegistry.Config.Environment (Variable)

/-- What a run leaves behind. -/
structure Report where
  exitCode : UInt32
  output : String
  errors : String
  deriving DecidableEq, Repr

/-! ### Failures -/

/-- Text behind a mark, with further lines in line with the first. -/
def hanging (mark : String) (text : String) : List Char :=
  let indent := '\n' :: List.replicate mark.length ' '
  mark.toList ++ text.toList.flatMap fun c => if c = '\n' then indent else [c]

/-- The number of a cause, right-aligned in five columns. -/
def causeMark (n : Nat) : String :=
  let digits := toString n
  String.ofList (List.replicate (5 - digits.length) ' ') ++ digits ++ ": "

/-- The list of causes; they are numbered if there are several. -/
def causeLines : List String → List (List Char)
  | [cause] => [hanging "    " cause]
  | causes => causes.zipIdx.map fun c => hanging (causeMark c.2) c.1

/-- The account of a failure and of its causes, the nearest first. -/
def account (what : String) (causes : List String) : String :=
  "Error: " ++ what ++
    (if causes.isEmpty then ""
    else "\n\nCaused by:" ++
      String.ofList ((causeLines causes).flatMap fun line => '\n' :: line)) ++ "\n"

namespace Report

/-- A run that failed. -/
def failed (what : String) (causes : List String) : Report := ⟨1, "", account what causes⟩

/-- A run that was stopped on the way. What is written about that is left out, since it depends on
how the program was built. -/
def aborted : Report := ⟨101, "", ""⟩

/-- Whether a character reaches the terminal in accounts of usage faults: controls other than
blanks do not. -/
def isShown (c : Char) : Bool :=
  ('\x20' ≤ c && c ≠ '\x7f') || ['\t', '\n', '\x0c', '\r'].contains c

/-- A run that never began. -/
def stopped : Stop → Report
  | .help topic => ⟨0, topic.text, ""⟩
  -- A bare command line gets the help, but on the error output.
  | .usage .nothing => ⟨2, "", Topic.program.text⟩
  | .usage fault =>
    ⟨2, "", "error: " ++ String.ofList (fault.message.toList.filter isShown) ++ "\n"⟩

end Report

/-! ### Results -/

/-- The document that shows the result of an operation, if it has one. -/
def resultDocument? : (op : Operation) → op.Result → Option Json.Value
  | .add _, device => some device.toValue
  | .remove _ _, _ => none
  | .get _ _, device => some device.toValue
  | .list _, devices => some (Device.listToValue devices)
  | .notify _, _ => none
  | .status, status => some status.toValue

/-- What is written about a result. -/
def resultText (op : Operation) (result : op.Result) : String :=
  match resultDocument? op result with
  | some document => document.pretty ++ "\n"
  | none => ""

/-! ### Running -/

variable [Http.Web] {σ : Type}

/-- The settings with the host and the port that a command line names. -/
def Invocation.settings (i : Invocation) (s : Settings) : Settings :=
  { s with host := i.host.getD s.host, port := i.port.getD s.port }

/-- Runs a command with given settings. -/
def Command.run (peer : Http.Peer σ) (settings : Settings) (command : Command) (s : σ) :
    Report × σ :=
  match command.objection? with
  | some what => (.failed what [], s)
  | none =>
    let (outcome, s) := Client.perform peer settings.server command.operation s
    match outcome.result with
    | .ok result => (⟨0, resultText command.operation result, ""⟩, s)
    | .error failure =>
      (.failed command.failureText (failure.message :: failure.causes), s)

/-- Runs what a command line asks for. -/
def Invocation.run (peer : Http.Peer σ) (files : List File) (given : List Variable)
    (i : Invocation) (s : σ) : Report × σ :=
  match Settings.load files given with
  | none => (.aborted, s)
  | some (.error fault) => (.failed "Failed to load configuration" [fault.message], s)
  | some (.ok settings) => i.command.run peer (i.settings settings) s

/-- Runs a command line in a directory with the given files and an environment. -/
def run (peer : Http.Peer σ) (files : List File) (given : List Variable)
    (args : List String) (s : σ) : Report × σ :=
  match Invocation.parse args with
  | .error stop => (.stopped stop, s)
  | .ok i => i.run peer files given s

end PushRegistry.CommandLine
