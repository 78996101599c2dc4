import PromptPlan.Settings.Basic
import PromptPlan.Json.Decode
import PromptPlan.Toml.Read

/-!
# Reading settings

Settings come from TOML documents, and, as values, from whoever embeds the engine. Both are read
field by field with a default for every field that is missing. Several files are layers, each
over the ones before it.
-/

namespace PromptPlan

/-- What is found at the path of a file. -/
inductive FileContent where
  | absent
  | unreadable (reason : String)
  | text (content : String)
deriving DecidableEq, Repr

def FileContent.isPresent : FileContent → Bool
  | .absent => false
  | _ => true

namespace PlanSettings

def fields : Json.Fields := ⟨"PlanConfig", ["step_timeout_secs"], [], []⟩

def decode (origin : Json.Origin) : Json.Decoder PlanSettings :=
  Json.asRecord origin fields {} fun depth _ _ j => do
    return ⟨← Json.asOptional (Json.asNat "u64" (Nat.pow 2 64 - 1)) depth j⟩

end PlanSettings

namespace CompletionSettings

def fields : Json.Fields where
  name := "CompletionSettings"
  fields := ["max_tokens", "temperature", "top_p", "presence_penalty", "frequency_penalty",
    "stop_sequences"]
  required := []
  listed := []

def visit (depth : Nat) (s : CompletionSettings) (name : String) (j : Json) :
    Except String CompletionSettings :=
  if name = "max_tokens" then
    return { s with maxTokens := ← Json.asNat "u32" (Nat.pow 2 32 - 1) depth j }
  else if name = "temperature" then return { s with temperature := ← Json.asFloat depth j }
  else if name = "top_p" then return { s with topP := ← Json.asFloat depth j }
  else if name = "presence_penalty" then
    return { s with presencePenalty := ← Json.asFloat depth j }
  else if name = "frequency_penalty" then
    return { s with frequencyPenalty := ← Json.asFloat depth j }
  else return { s with stopSequences := ← Json.asList Json.asString depth j }

def decode (origin : Json.Origin) : Json.Decoder CompletionSettings :=
  Json.asRecord origin fields {} visit

end CompletionSettings

namespace LoggingSettings

def fields : Json.Fields := ⟨"LoggingConfig", ["level", "log_to_console", "format"], [], []⟩

def visit (depth : Nat) (s : LoggingSettings) (name : String) (j : Json) :
    Except String LoggingSettings :=
  if name = "level" then return { s with level := ← Json.asString depth j }
  else if name = "log_to_console" then return { s with console := ← Json.asBool depth j }
  else return { s with format := ← Json.asString depth j }

def decode (origin : Json.Origin) : Json.Decoder LoggingSettings :=
  Json.asRecord origin fields {} visit

end LoggingSettings

namespace Settings

def fields : Json.Fields := ⟨"EngineConfig", ["plan", "completion", "logging"], [], []⟩

def visit (origin : Json.Origin) (depth : Nat) (s : Settings) (name : String) (j : Json) :
    Except String Settings :=
  if name = "plan" then return { s with plan := ← PlanSettings.decode origin depth j }
  else if name = "completion" then
    return { s with completion := ← CompletionSettings.decode origin depth j }
  else return { s with logging := ← LoggingSettings.decode origin depth j }

def decode (origin : Json.Origin) : Json.Decoder Settings :=
  Json.asRecord origin fields {} (visit origin)

def unreadable : Error := fault "Failed to parse configuration: TOML parse error"

def ofToml (text : String) : Result Settings :=
  match Toml.read? text with
  | none => .error unreadable
  | some t =>
    match decode .table Json.maxDepth t.toJson with
    | .error _ => .error unreadable
    | .ok s => do
      s.check
      return s

/-! ### Files -/

/-- Reads settings from a file, checked; a file that does not exist stands for the defaults. -/
def ofFile (path : String) : FileContent → Result Settings
  | .absent => .ok {}
  | .unreadable reason => .error (.io s!"Failed to read config file: {reason}" (some path))
  | .text content =>
    match ofToml content with
    | .error (.config message _) =>
      .error (.config message (some s!"Loading configuration from '{path}'"))
    | r => r

/-- Puts the files that exist on top of settings, one after another. -/
def overlay (s : Settings) : List (String × FileContent) → Result Settings
  | [] => .ok s
  | (path, content) :: rest =>
    if content.isPresent then do overlay (s.merge (← ofFile path content)) rest
    else overlay s rest

/-- Reads layered settings: the files that exist over the defaults, checked once more. -/
def ofLayers (files : List (String × FileContent)) : Result Settings := do
  let s ← overlay {} files
  s.check
  return s

end Settings

end PromptPlan
