import PushRegistry.Config.Conversion
import PushRegistry.Config.Dotenv
import PushRegistry.Config.Settings
import PushRegistry.Config.Format

/-!
# `PushRegistry.Config.Load`: finding the settings

Settings come from three layers: defaults, a file, the environment. A later layer wins over
an earlier one, value by value. Before that, a file of variables may add to the environment.
-/

set_option autoImplicit false

namespace PushRegistry.Config

open PushRegistry.Config.Environment (Variable)
open PushRegistry.Text

/-- A file of the working directory. -/
structure File where
  name : String
  content : List UInt8
  deriving DecidableEq, Repr

/-- Why there are no settings. -/
inductive LoadFault where
  /-- The file cannot be read as its format demands. -/
  | unparsable (file : String) (fault : FormatFault)
  /-- A value does not suit its key. -/
  | mismatch (m : Mismatch)
  deriving Repr

/-- The account of a fault that users see. -/
def LoadFault.message : LoadFault → String
  | .unparsable file fault => fault.message file ++ " in " ++ file
  | .mismatch m => m.message

namespace Settings

/-- The defaults as a layer. -/
def defaults : List (String × Setting) :=
  let d := Settings.default
  [("host", .scalar none (.text d.host)), ("port", .scalar none (.int (Int.ofNat d.port))),
    ("timeout_secs", .scalar none (.int (Int.ofNat d.timeout))),
    ("connect_timeout_secs", .scalar none (.int (Int.ofNat d.connectTimeout)))]

/-- The base of the name of a settings file. -/
def fileBase : String := "postal"

/-- The content of a file with a name. -/
def content? (files : List File) (name : String) : Option (List UInt8) :=
  (files.find? (·.name = name)).map File.content

/-- The settings file, if there is one, its format and its text. A file without an extension
stands in the way of all others, and a file that is no text counts as absent. -/
def file? (files : List File) : Option (String × Format × List Char) :=
  if (content? files fileBase).isSome then none
  else do
    let (ext, format) ← Format.extensions.find? fun e =>
      (content? files (fileBase ++ "." ++ e.1)).isSome
    let name := fileBase ++ "." ++ ext
    let text ← (content? files name).bind Utf8.decode?
    return (name, format, text)

/-- The layer of the settings file. -/
def fileLayer (files : List File) : Except LoadFault (List (String × Setting)) :=
  match file? files with
  | none => .ok []
  | some (name, format, text) =>
    match format.table text with
    | .ok entries => .ok (Setting.ofEntries (.file name) entries)
    | .error fault => .error (.unparsable name fault)

/-- The environment after reading the file that adds to it; none if that stops the program. -/
def environment? (files : List File) (given : List Variable) : Option (List Variable) :=
  match content? files ".env" with
  | some bytes => Dotenv.load given bytes
  | none => some given

/-- The value of a key; the layers hold every key because the defaults do. -/
def lookup (root : Setting) (key : String) : Setting := (root.get? key).getD .unset

/-- The settings that layered values mean. -/
def ofSetting (root : Setting) : Except Mismatch Settings := do
  let host ← toText "host" (lookup root "host")
  let port ← toPort "port" (lookup root "port")
  let timeout ← toWord "timeout_secs" (lookup root "timeout_secs")
  let connectTimeout ← toWord "connect_timeout_secs" (lookup root "connect_timeout_secs")
  return ⟨host, port, timeout, connectTimeout⟩

/-- The layers laid over each other. -/
def layered (files : List File) (environment : List Variable) : Except LoadFault Setting := do
  let fromFile ← fileLayer files
  let fromEnvironment := Environment.source environment
  return ((Setting.empty.overlay defaults).overlay fromFile).overlay fromEnvironment

/-- The settings for a directory with the given files and a complete environment. -/
def ofLayers (files : List File) (environment : List Variable) : Except LoadFault Settings := do
  let root ← layered files environment
  (ofSetting root).mapError .mismatch

/-- The settings for a directory with the given files and an environment; none if the program is
stopped before it comes to a result. -/
def load (files : List File) (given : List Variable) : Option (Except LoadFault Settings) :=
  (environment? files given).map (ofLayers files)

end Settings

end PushRegistry.Config
