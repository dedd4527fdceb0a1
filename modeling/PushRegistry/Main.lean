import PushRegistry.CommandLine.Report

/-!
# `PushRegistry.Main`: the program

Reads the settings files of the working directory and the environment, runs the command line
and writes its report. Neither a transport nor the tables of the web are built in: every attempt to
reach a server fails, as on a host without a network. A program that has a transport passes its own
`Http.Peer` to `CommandLine.run`, and one with the tables its own `Http.Web`.
-/

set_option autoImplicit false

namespace PushRegistry.Main

open PushRegistry.Config (File Format Settings)

/-- The names of the files that can hold settings. -/
def fileNames : List String :=
  ".env" :: Settings.fileBase ::
    Format.extensions.map fun e => Settings.fileBase ++ "." ++ e.1

/-- A file of the working directory, if it can be read. -/
def readFile (name : String) : IO (Option File) := do
  try
    let content ← IO.FS.readBinFile name
    return some ⟨name, content.toList⟩
  catch _ => return none

/-- The assignments of an environment block, each of which ends with a null character. -/
def assignments (block : List Char) : List (String × String) :=
  (block.splitOn '\x00').filterMap fun entry =>
    match entry.dropWhile (· ≠ '=') with
    | _ :: value =>
      some (String.ofList (entry.takeWhile (· ≠ '=')), String.ofList value)
    | [] => none

/-- The environment, where the system shows it as a file. -/
def environment : IO (List (String × String)) := do
  match ← readFile "/proc/self/environ" with
  | some file => return assignments ((Text.Utf8.decode? file.content).getD [])
  | none => return []

end PushRegistry.Main

/-- Runs the command line. -/
def main (args : List String) : IO UInt32 := do
  let _ := PushRegistry.Http.Web.withoutTables
  let files ← PushRegistry.Main.fileNames.filterMapM PushRegistry.Main.readFile
  let given ← PushRegistry.Main.environment
  let (report, _) :=
    PushRegistry.CommandLine.run PushRegistry.Http.Peer.offline files given args ()
  IO.print report.output
  IO.eprint report.errors
  return report.exitCode
