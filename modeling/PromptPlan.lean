import PromptPlan.Workspace
import PromptPlan.Settings.Read
import PromptPlan.Logging
import PromptPlan.Function.Record
import PromptPlan.Plan.Answer
import PromptPlan.Plan.Document
import PromptPlan.Plan.Inspect
import PromptPlan.Proofs.Variables
import PromptPlan.Proofs.Catalog
import PromptPlan.Proofs.Template.Refusal
import PromptPlan.Proofs.Template.Quoting
import PromptPlan.Proofs.Template.Rewriting
import PromptPlan.Proofs.Template.Appending
import PromptPlan.Proofs.Plan.Confinement
import PromptPlan.Proofs.Plan.Failure
import PromptPlan.Proofs.Plan.Restore
import PromptPlan.Proofs.Plan.Relay
import PromptPlan.Proofs.Plan.Grouping
import PromptPlan.Proofs.Plan.Cancellation
import PromptPlan.Proofs.Template.Resolving
import PromptPlan.Proofs.Plan.StepVariables
import PromptPlan.Proofs.Plan.Pauses
import PromptPlan.Proofs.Plan.Course
import PromptPlan.Proofs.Plan.Frame
import PromptPlan.Proofs.Plan.MainSlot
import PromptPlan.Proofs.Plan.Gathering
import PromptPlan.Proofs.Plan.Causes
import PromptPlan.Proofs.Settings.Layers
import PromptPlan.Proofs.Plan.Freshness
import PromptPlan.Proofs.Plan.Alone
import PromptPlan.Proofs.Prompt
import PromptPlan.Proofs.Merging
import PromptPlan.Proofs.Naming
import PromptPlan.Proofs.Template.Nesting
import PromptPlan.Proofs.Template.Covering
import PromptPlan.Proofs.Template.Unclosed
import PromptPlan.Proofs.Plan.Documents
import PromptPlan.Proofs.Plan.Choices
import PromptPlan.Proofs.Settings.Refusals
import PromptPlan.Proofs.Plan.Namesakes
import PromptPlan.Proofs.Plan.Repetitions
import PromptPlan.Proofs.Plan.References
