import PromptPlan.Proofs.Journal
import PromptPlan.Proofs.Template.Words
import PromptPlan.Template.Render

/-!
# The calls of a template

What a template asks for can be read off its blocks and the caller's variables beforehand: each
block is a *piece*, a text or a request to call a function with certain variables. Nothing in a
request depends on what another call did, because no function is handed variables that another one
has touched.

Rendering makes the requested calls one after another, up to the first that names no function or
does not end well. `calls_of_render` says this of the journal that a rendering leaves.
-/

namespace PromptPlan.Template

variable {σ : Type}

/-! ### Pieces -/

/-- A call that a template asks for: the reference as it is written, and the variables that
the function is to receive. -/
structure Request where
  reference : String
  received : Variables

/-- What a block contributes to the output. -/
inductive Piece where
  | text (s : String)
  | call (request : Request)

def Request.target (request : Request) : Reference :=
  Reference.parse request.reference

def tokenText (vars : Variables) : Block → String
  | .text s => s
  | .value s => valueText s
  | .variable s => (vars.get? (variableName s)).getD ""
  | _ => ""

/-- The piece of a block. A function receives the caller's variables, with the main slot
replaced if it has an argument. -/
def Block.piece (vars : Variables) : Block → Piece
  | .function reference => .call ⟨reference, vars⟩
  | .code _ [.function reference] => .call ⟨reference, vars⟩
  | .code _ [.function reference, argument] =>
    .call ⟨reference, vars.setInput (tokenText vars argument)⟩
  | .code _ [token] => .text (tokenText vars token)
  | block => .text (tokenText vars block)

def requests : List Piece → List Request
  | [] => []
  | .text _ :: rest => requests rest
  | .call request :: rest => request :: requests rest

/-- The pieces in order, with answers in the places of the requests. -/
def fill : List Piece → List String → String
  | [], _ => ""
  | .text s :: rest, answers => s ++ fill rest answers
  | .call _ :: rest, answer :: answers => answer ++ fill rest answers
  | .call _ :: _, [] => ""

/-! ### What a rendering comes to -/

def Request.asks (request : Request) : Reference × Variables :=
  (request.target, request.received)

/-- How a rendering ends, given the calls it made. -/
inductive Outcome (scope : Scope σ) (pieces : List Piece) (calls : List Call) :
    Exit String → Prop
  | done {answers : List Variables} :
      calls.map Call.asked = (requests pieces).map Request.asks →
      calls.map Call.ended = answers.map Exit.done →
        Outcome scope pieces calls (.done (fill pieces (answers.map Variables.input)))
  /-- The next request names no function. -/
  | unknown {request : Request} :
      (∀ call ∈ calls, ∃ answer, call.ended = .done answer) →
      (requests pieces)[calls.length]? = some request →
      scope request.target.skill request.target.name = none →
        Outcome scope pieces calls
          (.failed (.unknownFunction request.reference
            (some "Referenced by a template code block")))
  | failed {call : Call} {callee : Callee σ} {e : Error} :
      calls.getLast? = some call → call.ended = .failed e →
      scope call.target.skill call.target.name = some callee →
        Outcome scope pieces calls (.failed (e.inFunction callee.qualifiedName))
  | interrupted {call : Call} :
      calls.getLast? = some call → call.ended = .interrupted →
        Outcome scope pieces calls .interrupted
  | stuck {call : Call} :
      calls.getLast? = some call → call.ended = .stuck → Outcome scope pieces calls .stuck

/-- The calls of a rendering: those that were asked for, in order, each to a function that
there is, and all but the last answered. -/
structure Rendering (scope : Scope σ) (pieces : List Piece) (calls : List Call)
    (exit : Exit String) : Prop where
  in_order : calls.map Call.asked <+: (requests pieces).map Request.asks
  known : ∀ call ∈ calls, (scope call.target.skill call.target.name).isSome = true
  answered : ∀ call ∈ calls.dropLast, ∃ answer, call.ended = .done answer
  outcome : Outcome scope pieces calls exit

namespace Rendering

variable {scope : Scope σ} {pieces : List Piece} {calls : List Call} {exit : Exit String}

theorem nil : Rendering scope [] [] (.done "") where
  in_order := List.nil_prefix
  known := by simp
  answered := by simp
  outcome := .done rfl (show [].map Call.ended = [].map Exit.done from rfl)

theorem text (h : Rendering scope pieces calls exit) (s : String) :
    Rendering scope (.text s :: pieces) calls (exit.map (s ++ ·)) where
  in_order := h.in_order
  known := h.known
  answered := h.answered
  outcome := by
    cases h.outcome with
    | done hall hended => exact .done hall hended
    | unknown hended hnext hscope => exact .unknown hended hnext hscope
    | failed hlast hended hscope => exact .failed hlast hended hscope
    | interrupted hlast hended => exact .interrupted hlast hended
    | stuck hlast hended => exact .stuck hlast hended

/-- An answered request in front adds its call and its answer. -/
theorem answer {request : Request} {callee : Callee σ}
    (hscope : scope request.target.skill request.target.name = some callee)
    (h : Rendering scope pieces calls exit) (vars : Variables) :
    Rendering scope (.call request :: pieces)
      (⟨request.target, request.received, .done vars⟩ :: calls)
      (exit.map (vars.input ++ ·)) where
  in_order := by
    simp only [requests, List.map_cons]
    exact List.cons_prefix_cons.2 ⟨rfl, h.in_order⟩
  known := by
    intro call hcall
    rcases List.mem_cons.1 hcall with rfl | hcall
    · exact Option.isSome_of_eq_some hscope
    · exact h.known call hcall
  answered := by
    intro call hcall
    cases calls with
    | nil => simp at hcall
    | cons next calls =>
        rw [List.dropLast_cons_cons] at hcall
        rcases List.mem_cons.1 hcall with rfl | hcall
        · exact ⟨vars, rfl⟩
        · exact h.answered call hcall
  outcome := by
    have hlast' : ∀ {call : Call}, calls.getLast? = some call →
        (⟨request.target, request.received, .done vars⟩ :: calls).getLast? = some call := by
      intro call hcall
      rw [List.getLast?_cons, hcall]
      rfl
    cases h.outcome with
    | @done answers hall hended =>
        have hended' : (⟨request.target, request.received, .done vars⟩ :: calls).map Call.ended =
            (vars :: answers).map Exit.done := by
          rw [List.map_cons, hended]
          rfl
        refine .done ?_ hended'
        rw [List.map_cons, hall]
        rfl
    | unknown hended hnext hscope =>
        refine .unknown ?_ hnext hscope
        intro call hcall
        rcases List.mem_cons.1 hcall with rfl | hcall
        · exact ⟨vars, rfl⟩
        · exact hended call hcall
    | failed hlast hended hscope => exact .failed (hlast' hlast) hended hscope
    | interrupted hlast hended => exact .interrupted (hlast' hlast) hended
    | stuck hlast hended => exact .stuck (hlast' hlast) hended

/-- A request that names no function ends the rendering before its call. -/
theorem unknown {request : Request}
    (hscope : scope request.target.skill request.target.name = none) (pieces : List Piece) :
    Rendering scope (.call request :: pieces) []
      (.failed (.unknownFunction request.reference
        (some "Referenced by a template code block"))) where
  in_order := List.nil_prefix
  known := by simp
  answered := by simp
  outcome := .unknown (by simp) rfl hscope

/-- A call that does not end well ends the rendering. -/
theorem last {request : Request} {callee : Callee σ}
    (hscope : scope request.target.skill request.target.name = some callee)
    (pieces : List Piece) {ended : Exit Variables} (hended : ∀ vars, ended ≠ .done vars)
    (f : Variables → String) :
    Rendering scope (.call request :: pieces) [⟨request.target, request.received, ended⟩]
      ((ended.mapError (·.inFunction callee.qualifiedName)).map f) where
  in_order := by
    simp only [requests, List.map_cons]
    exact List.cons_prefix_cons.2 ⟨rfl, List.nil_prefix⟩
  known := by
    intro call hcall
    rw [List.mem_singleton] at hcall
    subst hcall
    exact Option.isSome_of_eq_some hscope
  answered := by simp
  outcome := by
    cases ended with
    | done vars => exact absurd rfl (hended vars)
    | failed e => exact .failed rfl rfl hscope
    | interrupted => exact .interrupted rfl rfl
    | stuck => exact .stuck rfl rfl

end Rendering

/-! ### Rendering pieces -/

def Piece.render (scope : Scope σ) : Piece → Run σ String
  | .text s => pure s
  | .call request =>
    match scope request.target.skill request.target.name with
    | none =>
      .fail (.unknownFunction request.reference (some "Referenced by a template code block"))
    | some callee => do return (← callee.invoke request.received).input

def renderPieces (scope : Scope σ) : List Piece → Run σ String
  | [] => pure ""
  | piece :: rest => do
    let first ← piece.render scope
    let others ← renderPieces scope rest
    return first ++ others

theorem render_unknown {scope : Scope σ} {request : Request}
    (h : scope request.target.skill request.target.name = none) :
    (Piece.call request).render scope =
      .fail (.unknownFunction request.reference
        (some "Referenced by a template code block")) := by
  simp only [Piece.render, h]

theorem render_known {scope : Scope σ} {request : Request} {callee : Callee σ}
    (h : scope request.target.skill request.target.name = some callee) :
    (Piece.call request).render scope =
      (callee.invoke request.received >>= fun answer => pure answer.input) := by
  simp only [Piece.render, h]

theorem renderPieces_text (scope : Scope σ) (s : String) (pieces : List Piece) :
    renderPieces scope (.text s :: pieces) =
      (renderPieces scope pieces >>= fun others => pure (s ++ others)) := by
  rw [renderPieces, Piece.render, pure_bind]

/-- Rendering pieces makes the calls that they ask for. -/
theorem exists_calls (scope : Scope σ) (pieces : List Piece) (limits : Limits) (w : World σ) :
    ∃ calls : List Call,
      Run.Records (renderPieces scope pieces) (renderPieces scope.noted pieces) limits w calls ∧
        Rendering scope pieces calls (renderPieces scope pieces limits w).1 := by
  -- an answered call leaves another world to the pieces behind it
  induction pieces generalizing w with
  | nil => exact ⟨[], Run.records_pure "" limits w, .nil⟩
  | cons piece pieces ih =>
      cases piece with
      | text s =>
          obtain ⟨calls, hrecords, hrendering⟩ := ih w
          rw [renderPieces_text, renderPieces_text, Run.bind_pure_apply]
          exact ⟨calls, hrecords.map _, hrendering.text s⟩
      | call request =>
          rw [renderPieces, renderPieces]
          cases hscope : scope request.target.skill request.target.name with
          | none =>
              rw [render_unknown hscope, render_unknown (Scope.noted_of_none hscope)]
              refine ⟨[], (Run.records_fail _ limits w).bind_of_not_done nofun, ?_⟩
              rw [Run.bind_of_failed (Run.fail_apply _ limits w)]
              exact .unknown hscope pieces
          | some callee =>
              obtain ⟨callee', hnoted, hcall⟩ := Scope.exists_noted hscope
              rw [render_known hscope, render_known hnoted]
              have hrecords := (hcall request.received limits w).map Variables.input
              have hrun := Run.bind_pure_apply (callee.invoke request.received)
                Variables.input limits w
              rw [show callee.invoke request.received limits w =
                ((callee.call request.received limits w).1.mapError
                  (·.inFunction callee.qualifiedName),
                  (callee.call request.received limits w).2) from rfl] at hrun
              rcases hended : callee.call request.received limits w with ⟨ended, after⟩
              rw [hended] at hrecords hrun
              cases ended with
              | done vars =>
                  obtain ⟨calls, hrest, hrendering⟩ := ih after
                  refine ⟨_, hrecords.bind hrun (hrest.map _), ?_⟩
                  rw [Run.bind_of_done hrun, Run.bind_pure_apply]
                  exact hrendering.answer hscope vars
              | failed e =>
                  refine ⟨_, hrecords.bind_of_not_done (by rw [hrun]; nofun), ?_⟩
                  rw [Run.bind_of_failed hrun]
                  exact .last hscope pieces (by simp) Variables.input
              | interrupted =>
                  refine ⟨_, hrecords.bind_of_not_done (by rw [hrun]; nofun), ?_⟩
                  rw [Run.bind_of_interrupted hrun]
                  exact .last hscope pieces (by simp) Variables.input
              | stuck =>
                  refine ⟨_, hrecords.bind_of_not_done (by rw [hrun]; nofun), ?_⟩
                  rw [Run.bind_of_stuck hrun]
                  exact .last hscope pieces (by simp) Variables.input

/-! ### Rendering blocks -/

theorem renderBlock_eq {template : String} {block : Block} (hmem : block ∈ read template)
    (hvalid : block.isValid = true) (scope : Scope σ) (vars : Variables) :
    renderBlock scope vars block = (block.piece vars).render scope := by
  obtain ⟨segment, _, rfl⟩ := List.mem_map.1 hmem
  cases segment with
  | text s => rfl
  | span raw =>
      have hspan := span_of_isValid hvalid
      obtain ⟨content, tokens, hcode⟩ : ∃ content tokens, codeBlock raw = .code content tokens :=
        ⟨_, _, codeBlock_eq raw⟩
      rw [Segment.block, hcode]
      rw [hcode, Block.tokens] at hspan
      cases hspan with
      | mk _ hbody _ =>
          cases hbody with
          | operand h => cases h <;> rfl
          | call _ => rfl
          | callWith _ _ _ h => cases h <;> rfl

theorem renderEach_eq {blocks : List Block} {scope : Scope σ} {vars : Variables}
    (h : ∀ block ∈ blocks, renderBlock scope vars block = (block.piece vars).render scope) :
    renderEach scope vars blocks = renderPieces scope (blocks.map (Block.piece vars)) := by
  induction blocks with
  | nil => rfl
  | cons block blocks ih =>
      rw [renderEach, List.map_cons, renderPieces, h block (by simp),
        ih fun b hb => h b (List.mem_cons_of_mem block hb)]

/-- A well-formed template is rendered piece by piece. -/
theorem render_eq {template : String} (hvalid : ∀ block ∈ read template, block.isValid = true)
    (scope : Scope σ) (vars : Variables) :
    render scope vars template = renderPieces scope ((read template).map (Block.piece vars)) := by
  rw [render, renderBlocks, firstError?_eq_none_iff.2 hvalid]
  exact renderEach_eq fun block hblock => renderBlock_eq hblock (hvalid block hblock) scope vars

/-- A request hands over the caller's variables, with the main slot replaced at most. -/
theorem received_of_piece {vars : Variables} {block : Block} {request : Request}
    (h : block.piece vars = .call request) :
    request.received = vars ∨ ∃ text, request.received = vars.setInput text := by
  unfold Block.piece at h
  split at h <;> cases h
  · exact .inl rfl
  · exact .inl rfl
  · exact .inr ⟨_, rfl⟩

theorem mem_requests {pieces : List Piece} {request : Request} (h : request ∈ requests pieces) :
    Piece.call request ∈ pieces := by
  induction pieces with
  | nil => simp [requests] at h
  | cons piece pieces ih =>
      cases piece with
      | text s => exact List.mem_cons_of_mem _ (ih h)
      | call other =>
          rw [requests, List.mem_cons] at h
          rcases h with rfl | h
          · exact List.mem_cons_self
          · exact List.mem_cons_of_mem _ (ih h)

theorem Rendering.get?_received {scope : Scope σ} {vars : Variables} {blocks : List Block}
    {calls : List Call} {exit : Exit String}
    (h : Rendering scope (blocks.map (Block.piece vars)) calls exit) :
    ∀ call ∈ calls, ∀ name, Text.lower mainSlot ≠ Text.lower name →
      call.received.get? name = vars.get? name := by
  intro call hcall name hname
  have hasked : call.asked ∈ (requests (blocks.map (Block.piece vars))).map Request.asks :=
    h.in_order.subset (List.mem_map_of_mem hcall)
  obtain ⟨request, hrequest, hasks⟩ := List.mem_map.1 hasked
  obtain ⟨block, _, hpiece⟩ := List.mem_map.1 (mem_requests hrequest)
  have hreceived : call.received = request.received := (congrArg Prod.snd hasks).symm
  rw [hreceived]
  rcases received_of_piece hpiece with hsame | ⟨text, hset⟩
  · rw [hsame]
  · rw [hset, Variables.setInput, Variables.get?_set, if_neg hname]

/-- **The calls of a template.** With its journal, rendering does what it does without, and
the calls that it enters are the ones that the template asks for: each once, in order, with
the variables that the caller's variables determine, and up to the first that names no
function or does not end well. How the rendering ends follows from them. -/
theorem calls_of_render (scope : Scope σ) (vars : Variables) (template : String)
    (hvalid : ∀ block ∈ read template, block.isValid = true) (limits : Limits) (w : World σ) :
    ∃ calls : List Call,
      Run.Records (render scope vars template) (render scope.noted vars template) limits w
          calls ∧
        Rendering scope ((read template).map (Block.piece vars)) calls
          (render scope vars template limits w).1 ∧
        ∀ call ∈ calls, ∀ name, Text.lower mainSlot ≠ Text.lower name →
          call.received.get? name = vars.get? name := by
  rw [render_eq hvalid, render_eq hvalid]
  obtain ⟨calls, hrecords, hrendering⟩ := exists_calls scope _ limits w
  exact ⟨calls, hrecords, hrendering, hrendering.get?_received⟩

/-- Two calls of functions that overwrite the variable both are handed. -/
theorem calls_of_render_overwriting :
    let scope : Scope Unit := fun _ name => some ⟨name, fun vars =>
      pure ((vars.set "x" "changed").setInput (name ++ "(" ++ vars.input ++ ")"))⟩
    let vars := Variables.ofPairs [("x", "as given")]
    let template :=
      "\x7b\x7bfn1 $x\x7d\x7d, \x7b\x7b text.fn2 'it\\'s' \x7d\x7d: \x7b\x7b$x\x7d\x7d"
    (∀ block ∈ read template, block.isValid = true) ∧
      ∃ calls : List Call,
        Run.Records (render scope vars template) (render scope.noted vars template) .none
            (.start ()) calls ∧
          Rendering scope ((read template).map (Block.piece vars)) calls
            (render scope vars template .none (.start ())).1 ∧
          ∀ call ∈ calls, ∀ name, Text.lower mainSlot ≠ Text.lower name →
            call.received.get? name = vars.get? name := by
  intro scope vars template
  have hvalid : ∀ block ∈ read template, block.isValid = true :=
    firstError?_eq_none_iff.1 (by decide +kernel)
  exact ⟨hvalid, calls_of_render scope vars template hvalid .none (.start ())⟩

end PromptPlan.Template
