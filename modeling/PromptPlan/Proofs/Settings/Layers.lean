import PromptPlan.Settings.Read
import PromptPlan.Proofs.Records

/-!
# Layers of settings

A file that is silent about a section is read with the defaults in its place, and nothing tells
afterwards whether a section was left out or written down with its defaults. What such a file
does as a layer therefore depends on what the rule of the section makes of the defaults. The
rules of the time limit and of the completion settings take them for silence, so a layer that
leaves their section out leaves them alone. The switch for the console cannot be silent, and a
layer without a logging section turns it on.

Layers that can be read can always be put on top of each other. Each section of the outcome was
checked in one of the layers as a whole, except for logging, where level and format may come from
different layers, but are checked one by one.
-/

namespace PromptPlan

namespace Toml

theorem membersToJson_eq_map (members : Members) :
    membersToJson members = members.map fun m => (m.1, m.2.toJson) := by
  induction members with
  | nil => rw [membersToJson, List.map_nil]
  | cons m members ih => rw [membersToJson, ih, List.map_cons]

/-- The names that a document has at its outermost level. -/
def names : Toml → List String
  | .table _ members => members.map Prod.fst
  | _ => []

end Toml

namespace Settings

/-! ### Files that are silent about a section -/

/-- The sections that a file has. -/
def sections (content : String) : List String := ((Toml.read? content).map Toml.names).getD []

/-- A file counts as readable if it does not exist, or has settings that are in range. -/
def Readable (file : String × FileContent) : Prop := ∃ s, ofFile file.1 file.2 = .ok s

theorem readable_iff {file : String × FileContent} :
    Readable file ↔ (ofFile file.1 file.2).isOk = true := by
  rw [Readable]
  cases ofFile file.1 file.2 with
  | error e => simp [Except.isOk, Except.toBool]
  | ok s => simp [Except.isOk, Except.toBool]

instance (file : String × FileContent) : Decidable (Readable file) :=
  decidable_of_iff _ readable_iff.symm

/-- A field that is read changes its own section and no other. -/
theorem cases_of_visit {origin : Json.Origin} {depth : Nat} {s s' : Settings} {name : String}
    {j : Json} (hfield : name ∈ fields.fields) (hvisit : visit origin depth s name j = .ok s') :
    (name = "plan" ∧ ∃ plan, s' = { s with plan := plan }) ∨
    (name = "completion" ∧ ∃ completion, s' = { s with completion := completion }) ∨
    (name = "logging" ∧ ∃ logging, s' = { s with logging := logging }) := by
  rw [visit] at hvisit
  by_cases hplan : name = "plan"
  · rw [if_pos hplan] at hvisit
    obtain ⟨plan, -, hs'⟩ := exists_of_bind_eq_ok hvisit
    exact .inl ⟨hplan, plan, (Except.ok.inj hs').symm⟩
  · rw [if_neg hplan] at hvisit
    by_cases hcompletion : name = "completion"
    · rw [if_pos hcompletion] at hvisit
      obtain ⟨completion, -, hs'⟩ := exists_of_bind_eq_ok hvisit
      exact .inr (.inl ⟨hcompletion, completion, (Except.ok.inj hs').symm⟩)
    · rw [if_neg hcompletion] at hvisit
      have hlogging : name = "logging" := by simpa [fields, hplan, hcompletion] using hfield
      obtain ⟨logging, -, hs'⟩ := exists_of_bind_eq_ok hvisit
      exact .inr (.inr ⟨hlogging, logging, (Except.ok.inj hs').symm⟩)

/-- Settings out of a document are in range, and what the members of the document make of the
defaults. -/
theorem exists_of_ofToml {content : String} {s : Settings} (hread : ofToml content = .ok s) :
    s.check = .ok () ∧ ∃ depth members seen,
      Toml.read? content = some (.table .header members) ∧
        Json.visitMembers fields.fields (visit .table depth) [] {} (Toml.membersToJson members) =
          .ok (s, seen) := by
  rw [ofToml] at hread
  cases hdocument : Toml.read? content with
  | none =>
      rw [hdocument] at hread
      cases hread
  | some t =>
      obtain ⟨members, -, rfl⟩ := Option.map_eq_some_iff.1 hdocument
      rw [hdocument] at hread
      dsimp only at hread
      split at hread
      case h_1 => cases hread
      case h_2 r hdecode =>
        obtain ⟨⟨⟩, hcheck, hread⟩ := exists_of_bind_eq_ok hread
        cases hread
        rw [Toml.toJson] at hdecode
        obtain ⟨seen, hmembers⟩ := Json.exists_of_asRecord_object hdecode
        exact ⟨hcheck, _, members, seen, rfl, hmembers⟩

/-- The sections that are not among those present are at their defaults. -/
structure DefaultOutside (present : List String) (s : Settings) : Prop where
  plan_eq : "plan" ∉ present → s.plan = {}
  completion_eq : "completion" ∉ present → s.completion = {}
  logging_eq : "logging" ∉ present → s.logging = {}

theorem DefaultOutside.visit {present : List String} {origin : Json.Origin} {depth : Nat}
    {s s' : Settings} {name : String} {j : Json} (h : DefaultOutside present s)
    (hname : name ∈ present) (hfield : name ∈ fields.fields)
    (hvisit : visit origin depth s name j = .ok s') : DefaultOutside present s' := by
  rcases cases_of_visit hfield hvisit with
    ⟨rfl, plan, rfl⟩ | ⟨rfl, completion, rfl⟩ | ⟨rfl, logging, rfl⟩
  · exact { h with plan_eq := fun hsilent => absurd hname hsilent }
  · exact { h with completion_eq := fun hsilent => absurd hname hsilent }
  · exact { h with logging_eq := fun hsilent => absurd hname hsilent }

/-- Settings out of a document have the defaults wherever it is silent. -/
theorem defaultOutside_sections {content : String} {s : Settings}
    (hread : ofToml content = .ok s) : DefaultOutside (sections content) s := by
  obtain ⟨-, depth, members, seen, hdocument, hmembers⟩ := exists_of_ofToml hread
  refine Json.visitMembers_keeps ?_ ⟨fun _ => rfl, fun _ => rfl, fun _ => rfl⟩ hmembers
  intro m hm hfield r r' hr hvisit
  rw [Toml.membersToJson_eq_map] at hm
  obtain ⟨member, hmember, rfl⟩ := List.mem_map.1 hm
  refine hr.visit ?_ hfield hvisit
  rw [sections, hdocument]
  exact List.mem_map_of_mem hmember

theorem ofToml_of_ofFile {path content : String} {s : Settings}
    (hread : ofFile path (.text content) = .ok s) : ofToml content = .ok s := by
  rw [ofFile] at hread
  split at hread
  · cases hread
  · exact hread

/-! ### Ranges under layers -/

theorem check_eq_ok_iff {s : Settings} :
    s.check = .ok () ↔
      s.checkPlan = .ok () ∧ s.checkCompletion = .ok () ∧ s.checkLogging = .ok () := by
  constructor
  · intro hcheck
    obtain ⟨⟨⟩, hplan, hcheck⟩ := exists_of_bind_eq_ok hcheck
    obtain ⟨⟨⟩, hcompletion, hlogging⟩ := exists_of_bind_eq_ok hcheck
    exact ⟨hplan, hcompletion, hlogging⟩
  · rintro ⟨hplan, hcompletion, hlogging⟩
    rw [check, hplan, hcompletion, hlogging]
    rfl

theorem checkLogging_eq_ok_iff {s : Settings} :
    s.checkLogging = .ok () ↔ s.logging.level ∈ logLevels ∧ s.logging.format ∈ logFormats := by
  rw [checkLogging]
  by_cases hlevel : s.logging.level ∈ logLevels
  · by_cases hformat : s.logging.format ∈ logFormats <;> simp [hlevel, hformat]
  · simp [hlevel]

/-- Defaults are in range. -/
theorem check_default : ({} : Settings).check = .ok () := by rfl

theorem checkPlan_merge {s later : Settings} (hs : s.checkPlan = .ok ())
    (hlater : later.checkPlan = .ok ()) : (s.merge later).checkPlan = .ok () := by
  by_cases hset : later.plan.stepTimeout.isSome = true
  · have hplan : (s.merge later).plan = later.plan := if_pos hset
    rwa [checkPlan, hplan]
  · have hplan : (s.merge later).plan = s.plan := if_neg hset
    rwa [checkPlan, hplan]

theorem checkCompletion_merge {s later : Settings} (hs : s.checkCompletion = .ok ())
    (hlater : later.checkCompletion = .ok ()) : (s.merge later).checkCompletion = .ok () := by
  by_cases hsame : later.completion.same {} = true
  · have hcompletion : (s.merge later).completion = s.completion := if_pos hsame
    rwa [checkCompletion, hcompletion]
  · have hcompletion : (s.merge later).completion = later.completion := if_neg hsame
    rwa [checkCompletion, hcompletion]

theorem checkLogging_merge {s later : Settings} (hs : s.checkLogging = .ok ())
    (hlater : later.checkLogging = .ok ()) : (s.merge later).checkLogging = .ok () := by
  rw [checkLogging_eq_ok_iff] at hs hlater ⊢
  constructor
  · show (if later.logging.level.isEmpty then s.logging.level else later.logging.level) ∈ logLevels
    split
    · exact hs.1
    · exact hlater.1
  · show (if later.logging.format.isEmpty then s.logging.format else later.logging.format) ∈
      logFormats
    split
    · exact hs.2
    · exact hlater.2

/-- Settings in range stay in range under a layer in range. -/
theorem check_merge {s later : Settings} (hs : s.check = .ok ()) (hlater : later.check = .ok ()) :
    (s.merge later).check = .ok () := by
  rw [check_eq_ok_iff] at hs hlater ⊢
  exact ⟨checkPlan_merge hs.1 hlater.1, checkCompletion_merge hs.2.1 hlater.2.1,
    checkLogging_merge hs.2.2 hlater.2.2⟩

/-- What is read from a file is in range. -/
theorem check_of_ofFile {path : String} {content : FileContent} {s : Settings}
    (hread : ofFile path content = .ok s) : s.check = .ok () := by
  cases content with
  | absent =>
      cases hread
      exact check_default
  | unreadable reason => cases hread
  | text content => exact (exists_of_ofToml (ofToml_of_ofFile hread)).1

/-! ### One file on top of others -/

theorem overlay_append (s : Settings) (files rest : List (String × FileContent)) :
    overlay s (files ++ rest) = overlay s files >>= fun s => overlay s rest := by
  induction files generalizing s with
  | nil => rfl
  | cons file files ih =>
      obtain ⟨path, content⟩ := file
      rw [List.cons_append, overlay, overlay]
      split
      · cases ofFile path content with
        | error e => rfl
        | ok later => exact ih (s.merge later)
      · exact ih s

/-- Readable files give settings in range, on top of settings in range. -/
theorem exists_overlay {s : Settings} {files : List (String × FileContent)}
    (hs : s.check = .ok ()) (hfiles : ∀ file ∈ files, Readable file) :
    ∃ s', overlay s files = .ok s' ∧ s'.check = .ok () := by
  induction files generalizing s with
  | nil => exact ⟨s, rfl, hs⟩
  | cons file files ih =>
      obtain ⟨path, content⟩ := file
      have hrest : ∀ file ∈ files, Readable file := fun file hfile =>
        hfiles file (List.mem_cons_of_mem _ hfile)
      rw [overlay]
      split
      · obtain ⟨later, hlater⟩ := hfiles _ List.mem_cons_self
        rw [show ofFile path content = .ok later from hlater]
        exact ih (check_merge hs (check_of_ofFile hlater)) hrest
      · exact ih hs hrest

theorem ofLayers_of_overlay {files : List (String × FileContent)} {s : Settings}
    (hfiles : overlay {} files = .ok s) (hs : s.check = .ok ()) : ofLayers files = .ok s := by
  rw [ofLayers, hfiles]
  show (s.check >>= fun _ => pure s) = .ok s
  rw [hs]
  rfl

/-- A layer on top of others is merged into what they give. -/
theorem exists_ofLayers_append {files : List (String × FileContent)} {path content : String}
    {later : Settings} (hfiles : ∀ file ∈ files, Readable file)
    (hlater : ofFile path (.text content) = .ok later) :
    ∃ s, ofLayers files = .ok s ∧
      ofLayers (files ++ [(path, .text content)]) = .ok (s.merge later) := by
  obtain ⟨s, hs, hcheck⟩ := exists_overlay check_default hfiles
  have hmerged : overlay {} (files ++ [(path, .text content)]) = .ok (s.merge later) := by
    rw [overlay_append, hs]
    show (ofFile path (.text content) >>= fun later => overlay (s.merge later) []) =
      .ok (s.merge later)
    rw [hlater]
    rfl
  exact ⟨s, ofLayers_of_overlay hs hcheck,
    ofLayers_of_overlay hmerged (check_merge hcheck (check_of_ofFile hlater))⟩

/-- **A layer that is silent about a section.** It leaves the time limit and the completion
settings as the layers below set them, and turns the console on. -/
theorem ofLayers_append_silent {files : List (String × FileContent)} {path content : String}
    (hfiles : ∀ file ∈ files, Readable file) (hlast : Readable (path, .text content)) :
    ∃ s s', ofLayers files = .ok s ∧ ofLayers (files ++ [(path, .text content)]) = .ok s' ∧
      ("plan" ∉ sections content → s'.plan = s.plan) ∧
      ("completion" ∉ sections content → s'.completion = s.completion) ∧
      ("logging" ∉ sections content → s'.logging.console = true) := by
  obtain ⟨later, hlater⟩ := hlast
  have hdefault := defaultOutside_sections (ofToml_of_ofFile hlater)
  obtain ⟨s, hs, hs'⟩ := exists_ofLayers_append hfiles hlater
  refine ⟨s, s.merge later, hs, hs', ?_, ?_, ?_⟩
  · intro hsilent
    rw [merge, hdefault.plan_eq hsilent]
    rfl
  · intro hsilent
    rw [merge, hdefault.completion_eq hsilent]
    rfl
  · intro hsilent
    rw [merge, hdefault.logging_eq hsilent]
    rfl

/-- An empty file over one with a time limit and completion settings, and over one that does not
exist. -/
theorem ofLayers_append_silent_empty :
    let files : List (String × FileContent) := [("base.toml",
      .text "[plan]\nstep_timeout_secs = 5\n[completion]\ntemperature = 0.5\n"),
      ("home.toml", .absent)]
    (∀ file ∈ files, Readable file) ∧ Readable ("local.toml", .text "") ∧
      ∃ s s', ofLayers files = .ok s ∧ ofLayers (files ++ [("local.toml", .text "")]) = .ok s' ∧
        s'.plan = s.plan ∧ s'.completion = s.completion ∧ s'.logging.console = true := by
  intro files
  have hfiles : ∀ file ∈ files, Readable file := by decide +kernel
  have hlast : Readable ("local.toml", .text "") := by decide +kernel
  have hsections : sections "" = [] := by decide +kernel
  obtain ⟨s, s', hs, hs', hplan, hcompletion, hlogging⟩ := ofLayers_append_silent hfiles hlast
  rw [hsections] at hplan hcompletion hlogging
  exact ⟨hfiles, hlast, s, s', hs, hs', hplan nofun, hcompletion nofun, hlogging nofun⟩

/-- A console that was turned off is turned on by an empty file. -/
theorem console_of_empty :
    let quiet : String × FileContent := ("base.toml", .text "[logging]\nlog_to_console = false\n")
    let silent : String × FileContent := ("local.toml", .text "")
    Readable quiet ∧ Readable silent ∧ "logging" ∉ sections "" ∧
      (ofLayers [quiet]).toOption.map logging = some { console := false } ∧
      (ofLayers [quiet, silent]).toOption.map logging = some { console := true } := by
  refine ⟨?_, ?_, ?_, ?_, ?_⟩ <;> decide +kernel

end Settings

end PromptPlan
