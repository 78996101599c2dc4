import PromptPlan.Decimal.Layout
import PromptPlan.Error
import PromptPlan.Text.Inspect

/-!
# Settings

The engine is configured in three sections: how long a step of a plan may take, what is sent to
the completion backend along with a prompt, and how the surrounding program logs. Every setting
has a default, so that an empty configuration is a complete one.
-/

namespace PromptPlan

structure CompletionSettings where
  maxTokens : Nat := 256
  temperature : Float := 0.0
  topP : Float := 1.0
  presencePenalty : Float := 0.0
  frequencyPenalty : Float := 0.0
  stopSequences : List String := []

/-- How plans are run; no limit means that steps may take as long as they like. -/
structure PlanSettings where
  stepTimeout : Option Nat := none
deriving DecidableEq, Repr

structure LoggingSettings where
  level : String := "info"
  console : Bool := true
  format : String := "pretty"
deriving DecidableEq, Repr

structure Settings where
  plan : PlanSettings := {}
  completion : CompletionSettings := {}
  logging : LoggingSettings := {}

instance : Inhabited Settings := ⟨{}⟩

def PlanSettings.stepMillis (s : PlanSettings) : Option Nat := s.stepTimeout.map (· * 1000)

def CompletionSettings.shown (s : CompletionSettings) : Text.Shown :=
  let float (x : Float) : Text.Shown := .atom (Layout.listing.write x)
  .record "CompletionSettings"
    [("max_tokens", .ofNat s.maxTokens), ("temperature", float s.temperature),
      ("top_p", float s.topP), ("presence_penalty", float s.presencePenalty),
      ("frequency_penalty", float s.frequencyPenalty),
      ("stop_sequences", .ofTexts s.stopSequences)] true

/-- Numbers are compared as numbers, so minus zero is zero. -/
def CompletionSettings.same (a b : CompletionSettings) : Bool :=
  a.maxTokens == b.maxTokens && a.temperature == b.temperature && a.topP == b.topP &&
    a.presencePenalty == b.presencePenalty && a.frequencyPenalty == b.frequencyPenalty &&
    a.stopSequences == b.stopSequences

/-! ### Ranges -/

/-- The levels of logging, in the order of the alphabet. -/
def logLevels : List String := ["debug", "error", "info", "trace", "warn"]

def logFormats : List String := ["compact", "json", "pretty"]

def showChoices (choices : List String) : String :=
  "\x7b" ++ ", ".intercalate (choices.map Text.quote) ++ "\x7d"

namespace Settings

def fault (message : String) : Error := .config message none

def checkPlan (s : Settings) : Result Unit :=
  if s.plan.stepTimeout = some 0 then
    .error (fault "step_timeout_secs must be greater than 0 when set")
  else .ok ()

def checkCompletion (s : Settings) : Result Unit :=
  let c := s.completion
  if !(0.0 ≤ c.temperature && c.temperature ≤ 2.0) then
    .error (fault ("Temperature must be between 0.0 and 2.0, got " ++
      Layout.sentence.write c.temperature))
  else if !(0.0 ≤ c.topP && c.topP ≤ 1.0) then
    .error (fault ("top_p must be between 0.0 and 1.0, got " ++ Layout.sentence.write c.topP))
  else if c.maxTokens = 0 then .error (fault "max_tokens must be greater than 0")
  else .ok ()

def checkLogging (s : Settings) : Result Unit :=
  if !logLevels.contains s.logging.level then
    .error (fault (s!"Invalid log level '{s.logging.level}'. Valid levels are: " ++
      showChoices logLevels))
  else if !logFormats.contains s.logging.format then
    .error (fault (s!"Invalid log format '{s.logging.format}'. Valid formats are: " ++
      showChoices logFormats))
  else .ok ()

def check (s : Settings) : Result Unit := do
  s.checkPlan
  s.checkCompletion
  s.checkLogging

/-! ### Layers -/

def mergeLogging (s later : LoggingSettings) : LoggingSettings where
  level := if later.level.isEmpty then s.level else later.level
  -- There is no telling whether the later layer set the switch, so it always counts.
  console := later.console
  format := if later.format.isEmpty then s.format else later.format

def merge (s later : Settings) : Settings where
  plan := if later.plan.stepTimeout.isSome then later.plan else s.plan
  -- The section counts as a whole, unless it is the default one.
  completion := if later.completion.same {} then s.completion else later.completion
  logging := mergeLogging s.logging later.logging

end Settings

end PromptPlan
