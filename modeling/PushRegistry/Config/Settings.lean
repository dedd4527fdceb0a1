import PushRegistry.Url.Endpoint

/-!
# `PushRegistry.Config.Settings`: what can be configured

Which server a client talks to, and how long it waits.
-/

set_option autoImplicit false

namespace PushRegistry.Config

/-- The settings of a client. -/
structure Settings where
  host : String
  port : Nat
  /-- The time for a whole exchange, in seconds. -/
  timeout : Nat
  /-- The time for connecting, in seconds. -/
  connectTimeout : Nat
  deriving DecidableEq, Repr

namespace Settings

/-- The settings when nothing is configured. -/
def default : Settings where
  host := "localhost"
  port := 5300
  timeout := 60
  connectTimeout := 5

/-- The server that the settings name. -/
def server (s : Settings) : ServerAddress := ⟨s.host, s.port⟩

end Settings

end PushRegistry.Config
