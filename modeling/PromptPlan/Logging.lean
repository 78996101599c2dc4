import PromptPlan.Logging.Filter
import PromptPlan.Settings.Basic

/-!
# Starting to log

The surrounding program starts to log as its settings say, once, and with the console switched
off not at all.
-/

namespace PromptPlan.Logging

/-- Starts to log, in a program that logs already or does not. -/
def start (s : LoggingSettings) (running : Bool) : Except String Unit :=
  if !s.console then .ok ()
  else if !logFormats.contains (Text.asciiLower s.format) then
    .error s!"Unknown log format `{s.format}` (expected pretty, compact or json)"
  else
    match checkFilter s.level with
    | .error fault => .error fault.message
    | .ok () =>
      if running then
        .error ("Failed to install tracing subscriber: " ++
          "a global default trace dispatcher has already been set")
      else .ok ()

end PromptPlan.Logging
