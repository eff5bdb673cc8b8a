import HotAirBalloon.Agent.Budget

/-!
# What the brain can steer

Every call of the invoker was allowed by the semantic validator (`invocations_vetted`). When
the query is resolved by the patterns, the brain decides nothing about the calls: two runs
with different brains stay `Alike` from node to node until the answer is written
(`runFor_alike`), so they make the same calls.
-/

namespace HotAirBalloon.Agent

open Python Gateway Kernel

variable {B B' W : Type}

/-! ## No call without the validator -/

theorem vetted_step {py : Interpreter} {ctx : GraphContext B W} {node : Node}
    {run run' : RunState B W}
    {result : Except PyError (Option Node)} (h : ∀ call ∈ run.invocations, Vetted py ctx call)
    (hstep : VisitStep py ctx node (run.entering node) run' result) :
    ∀ call ∈ run'.invocations, Vetted py ctx call := by
  have called : ∀ {toolName}, Called py ctx toolName (run.entering node) run' →
      ∀ call ∈ run'.invocations, Vetted py ctx call := by
    intro toolName hcalled call hcall
    rw [hcalled.invocations] at hcall
    rcases List.mem_append.mp hcall with hcall | hcall
    · exact h call hcall
    · rw [List.mem_singleton.mp hcall]
      exact hcalled.vetted
  cases hstep with
  | quiet same _ => rw [same.invocations]; exact h
  | raised same => rw [same.invocations]; exact h
  | invokerRaised hcalled => exact called hcalled
  | invalidIdentity hcalled => exact called hcalled
  | answered hcalled _ _ => exact called hcalled
  | observed _ _ invocations _ _ => rw [invocations]; exact h

theorem invocations_vetted (py : Interpreter) (ctx : GraphContext B W) (limit : Nat) (node : Node)
    (run : RunState B W) (h : ∀ call ∈ run.invocations, Vetted py ctx call) :
    ∀ call ∈ (runFor py ctx limit node run).run.invocations, Vetted py ctx call := by
  have hrun := @runFor_invariant B W py ctx
    (fun _ run => ∀ call ∈ run.invocations, Vetted py ctx call)
    (fun run => ∀ call ∈ run.invocations, Vetted py ctx call)
    (fun _ _ _ _ => vetted_step) (fun _ _ _ => vetted_step) (fun _ _ _ _ => vetted_step)
    limit node run h
  revert hrun
  cases runFor py ctx limit node run with
  | finished run' => exact id
  | raised e run' => exact id
  | before node' run' => exact And.left

/-! ## Two runs with different brains -/

/-- The context with another brain. -/
def GraphContext.withBrain (ctx : GraphContext B W) (brain : AgentBrain B') :
    GraphContext B' W where
  brain := brain
  availableTools := ctx.availableTools
  toolInvoker := ctx.toolInvoker
  contextPrompt := ctx.contextPrompt
  userQuery := ctx.userQuery
  composeAnswer := ctx.composeAnswer
  conversationId := ctx.conversationId

/-- Two runs that agree on everything the tool calls depend on. -/
structure Agree (run : RunState B W) (run' : RunState B' W) : Prop where
  callBudget : run.callBudget = run'.callBudget
  world : run.world = run'.world
  invocations : run.invocations = run'.invocations
  pendingCall : run.state.pendingCall = run'.state.pendingCall

/-- Two visits with the same result that leave agreeing runs, with the same planned action
before the tool node. -/
structure AlikeVisits (v : Visit B W) (v' : Visit B' W) : Prop where
  result : v.2 = v'.2
  agree : Agree v.1 v'.1
  planned : v.2 = .ok (some .toolCall) → v.1.state.plannedAction = v'.1.state.plannedAction

theorem route_alike {run : RunState B W} {run' : RunState B' W} (h : Agree run run')
    (action : PlannedAction) : AlikeVisits (route run action) (route run' action) := by
  unfold route
  dsimp only
  constructor
  · rfl
  · split <;> exact ⟨h.callBudget, h.world, h.invocations, h.pendingCall⟩
  · intro _
    split <;> rfl

section

variable {py : Interpreter} {ctx : GraphContext B W} {brain : AgentBrain B'}
  {run : RunState B W} {run' : RunState B' W}

theorem planResolved_alike (h : Agree run run') (resolution : IntentResolution) :
    AlikeVisits (planResolved ctx run resolution)
      (planResolved (ctx.withBrain brain) run' resolution) := by
  have hcallable : callableTools ctx run = callableTools (ctx.withBrain brain) run' := by
    unfold callableTools
    rw [h.callBudget]
    rfl
  have agree : ∀ event event', Agree (run.recordDecision event) (run'.recordDecision event') :=
    fun _ _ => ⟨h.callBudget, h.world, h.invocations, h.pendingCall⟩
  unfold planResolved
  rw [hcallable]
  dsimp only
  split
  · exact route_alike (agree _ _) _
  · split
    · exact route_alike (agree _ _) _
    · exact route_alike (agree _ _) _

theorem policyBlocked_alike (h : Agree run run') (answer : String) :
    AlikeVisits (policyBlocked run answer) (policyBlocked run' answer) :=
  ⟨rfl, ⟨h.callBudget, h.world, h.invocations, h.pendingCall⟩, by
    intro hnext
    cases hnext⟩

theorem callTool_alike (h : Agree run run') (toolName : String) (payload : Payload) :
    AlikeVisits (callTool ctx run toolName payload)
      (callTool (ctx.withBrain brain) run' toolName payload) := by
  unfold callTool
  have hinvoker : (ctx.withBrain brain).toolInvoker toolName payload run'.world =
      ctx.toolInvoker toolName payload run.world := by
    rw [h.world]
    rfl
  rw [hinvoker]
  rcases ctx.toolInvoker toolName payload run.world with ⟨world, outcome⟩
  have agree : Agree
      { run with world := world, invocations := run.invocations ++ [(toolName, payload)] }
      { run' with world := world, invocations := run'.invocations ++ [(toolName, payload)] } :=
    ⟨h.callBudget, rfl, by simp only [h.invocations], h.pendingCall⟩
  cases outcome with
  | error e =>
    refine ⟨rfl, agree, ?_⟩
    intro hnext
    cases hnext
  | ok toolCall =>
    dsimp only
    split
    · exact policyBlocked_alike agree _
    · refine ⟨rfl, ⟨agree.callBudget, agree.world, agree.invocations, rfl⟩, ?_⟩
      intro hnext
      cases hnext

theorem invokeTool_alike (h : Agree run run')
    (hplanned : run.state.plannedAction = run'.state.plannedAction) :
    AlikeVisits (invokeTool py ctx run) (invokeTool py (ctx.withBrain brain) run') := by
  have agree : ∀ event event', Agree (run.recordDecision event) (run'.recordDecision event') :=
    fun _ _ => ⟨h.callBudget, h.world, h.invocations, h.pendingCall⟩
  have agree' : ∀ e₁ e₂ e₁' e₂', Agree ((run.recordDecision e₁).recordDecision e₂)
      ((run'.recordDecision e₁').recordDecision e₂') :=
    fun _ _ _ _ => ⟨h.callBudget, h.world, h.invocations, h.pendingCall⟩
  have hfind : ∀ toolName, findDescriptor (ctx.withBrain brain) toolName =
      findDescriptor ctx toolName := fun _ => rfl
  have hquery : (ctx.withBrain brain).userQuery = ctx.userQuery := rfl
  unfold invokeTool
  rw [hplanned, h.callBudget]
  simp only [hfind, hquery]
  cases findDescriptor ctx run'.state.plannedAction.toolName with
  | none => exact policyBlocked_alike (agree _ _) _
  | some descriptor =>
    cases run'.callBudget.canCall run'.state.plannedAction.toolName with
    | false => exact policyBlocked_alike (agree _ _) _
    | true =>
      dsimp only
      cases validateToolCallSemantics py ctx.userQuery descriptor
        run'.state.plannedAction.payload with
      | error e =>
        refine ⟨rfl, h, ?_⟩
        intro hnext
        cases hnext
      | ok result =>
        dsimp only
        split
        · exact policyBlocked_alike (agree _ _) _
        · exact callTool_alike (agree' _ _ _ _) _ _

theorem observeResult_alike (h : Agree run run') :
    AlikeVisits (observeResult run) (observeResult run') := by
  unfold observeResult
  rw [h.pendingCall, h.callBudget]
  cases hpending : run'.state.pendingCall with
  | none =>
    refine ⟨rfl, h, ?_⟩
    intro hnext
    cases hnext
  | some pendingCall =>
    dsimp only
    cases run'.callBudget.record pendingCall.toolName with
    | error e =>
      refine ⟨rfl, h, ?_⟩
      intro hnext
      cases hnext
    | ok budget =>
      refine ⟨rfl, ⟨rfl, h.world, h.invocations, rfl⟩, ?_⟩
      intro hnext
      cases hnext

theorem decideNextStep_alike (h : Agree run run') :
    AlikeVisits (decideNextStep run) (decideNextStep run') := by
  unfold decideNextStep
  rw [h.callBudget]
  refine ⟨rfl, h, ?_⟩
  intro hnext
  split at hnext <;> cases hnext

/-- Two runs before the same node. -/
def Alike (node : Node) (run : RunState B W) (run' : RunState B' W) : Prop :=
  Agree run run' ∧ (node = .toolCall → run.state.plannedAction = run'.state.plannedAction)

/-- Once the patterns resolve the query, the nodes between `classify_intent` and `respond`
do not depend on the brain. -/
theorem runNode_alike (brain : AgentBrain B') {resolution : IntentResolution} {node : Node}
    (hresolved : resolveIntent py ctx.userQuery = .ok (some resolution))
    (hclassify : node ≠ .classifyIntent) (hrespond : node ≠ .respond) (h : Alike node run run') :
    AlikeVisits (runNode py ctx node run) (runNode py (ctx.withBrain brain) node run') := by
  obtain ⟨hagree, hplanned⟩ := h
  cases node with
  | classifyIntent => exact absurd rfl hclassify
  | planAction =>
    have hresolved' : resolveIntent py (ctx.withBrain brain).userQuery = .ok (some resolution) :=
      hresolved
    unfold runNode planAction
    rw [hresolved, hresolved']
    exact planResolved_alike hagree resolution
  | toolCall => exact invokeTool_alike hagree (hplanned rfl)
  | observeResult => exact observeResult_alike hagree
  | decideNextStep => exact decideNextStep_alike hagree
  | respond => exact absurd rfl hrespond

end

/-- The answer adds no call. -/
theorem respond_invocations {py : Interpreter} (ctx : GraphContext B W) (limit : Nat)
    (run : RunState B W) :
    (runFor py ctx limit .respond run).run.invocations = run.invocations := by
  cases limit with
  | zero => rfl
  | succ limit =>
    have hstep := respond_step py ctx (run.entering .respond)
    rw [runFor_succ]
    change (resume py ctx limit (respond ctx (run.entering .respond))).run.invocations = _
    revert hstep
    rcases respond ctx (run.entering .respond) with ⟨run', r⟩
    intro hstep
    cases hstep with
    | quiet same edge =>
      cases edge with
      | answered => exact same.invocations
    | raised same => exact same.invocations

theorem not_classifyIntent {py : Interpreter} {ctx : GraphContext B W} {node next : Node}
    {run run' : RunState B W} (h : VisitStep py ctx node run run' (.ok (some next))) :
    next ≠ .classifyIntent := by
  rintro rfl
  cases h with
  | quiet same edge => cases edge

/-- Two runs of a resolved query that are alike make the same calls from there on. -/
theorem runFor_alike {py : Interpreter} (ctx : GraphContext B W) (brain : AgentBrain B')
    {resolution : IntentResolution}
    (hresolved : resolveIntent py ctx.userQuery = .ok (some resolution)) (limit : Nat) {node : Node}
    (hclassify : node ≠ .classifyIntent) {run : RunState B W} {run' : RunState B' W}
    (h : Alike node run run') :
    (runFor py ctx limit node run).run.invocations =
      (runFor py (ctx.withBrain brain) limit node run').run.invocations := by
  induction limit generalizing node run run' with
  | zero => exact h.1.invocations
  | succ limit ih =>
    by_cases hrespond : node = .respond
    · subst hrespond
      rw [respond_invocations, respond_invocations]
      exact h.1.invocations
    · have hentering : Alike node (run.entering node) (run'.entering node) :=
        ⟨⟨h.1.callBudget, h.1.world, h.1.invocations, h.1.pendingCall⟩, h.2⟩
      have halike := runNode_alike brain hresolved hclassify hrespond hentering
      have hstep := runNode_step py ctx node (run.entering node)
      rw [runFor_succ, runFor_succ]
      revert halike hstep
      rcases runNode py ctx node (run.entering node) with ⟨left, r⟩
      rcases runNode py (ctx.withBrain brain) node (run'.entering node) with ⟨right, r'⟩
      rintro ⟨rfl, hagree, hplanned⟩ hstep
      rcases r with e | _ | next
      · exact hagree.invocations
      · exact hagree.invocations
      · refine ih (not_classifyIntent hstep) ⟨hagree, ?_⟩
        rintro rfl
        exact hplanned rfl

/-! ## The orchestrator -/

/-- The view with which `classify_intent` is called. -/
def firstView (ctx : GraphContext B W) (policy : ToolCallPolicy) (checkpoint : Checkpoint)
    (maxToolCalls : Int) (allowToolCalls : Bool) (brain : B) (world : W) : AgentStateView :=
  agentState ctx (initialRun checkpoint policy maxToolCalls allowToolCalls brain world)
    (allowedTools policy ctx.availableTools)

/-- A brain whose `classify_intent` returns makes the first visit end before `plan_action`. -/
theorem classify_alike (py : Interpreter) (ctx : GraphContext B W) (run : RunState B W)
    {intent : String}
    (h : (ctx.brain.classifyIntent (agentState ctx run ctx.availableTools) run.brain).2 =
      .ok intent) (limit : Nat) :
    ∃ next : RunState B W, Agree next run ∧
      runFor py ctx (limit + 1) .classifyIntent run = runFor py ctx limit .planAction next := by
  refine ⟨(classifyIntent ctx (run.entering .classifyIntent)).1, ?_, ?_⟩
  · unfold classifyIntent
    split <;> exact ⟨rfl, rfl, rfl, rfl⟩
  · have hnext :
        (classifyIntent ctx (run.entering .classifyIntent)).2 = .ok (some .planAction) := by
      -- the view does not show the visits
      change (ctx.brain.classifyIntent (agentState ctx (run.entering .classifyIntent)
        ctx.availableTools) (run.entering .classifyIntent).brain).2 = .ok intent at h
      unfold classifyIntent
      revert h
      rcases ctx.brain.classifyIntent (agentState ctx (run.entering .classifyIntent)
        ctx.availableTools) (run.entering .classifyIntent).brain with ⟨brain, r⟩
      rintro rfl
      rfl
    rw [runFor_succ]
    change resume py ctx limit (classifyIntent ctx (run.entering .classifyIntent)) = _
    revert hnext
    rcases classifyIntent ctx (run.entering .classifyIntent) with ⟨next, r⟩
    rintro rfl
    rfl

/-- The brain cannot steer a resolved query: with any other brain, the run makes the same calls
in the same order, as long as both brains' `classify_intent` return. And whatever the query
and the brain, every call is one that the validator allows for the query and the descriptor
of the tool. -/
theorem ainvoke_steering (py : Interpreter) (ctx : GraphContext B W) (policy : ToolCallPolicy)
    (checkpoint : Checkpoint) (maxToolCalls : Int) (allowToolCalls : Bool) (b : B) (world : W)
    (recursionLimit : Nat) :
    (∀ (resolution : IntentResolution) (B' : Type) (brain : AgentBrain B') (b' : B')
        (intent intent' : String),
      resolveIntent py ctx.userQuery = .ok (some resolution) →
      (ctx.brain.classifyIntent
        (firstView ctx policy checkpoint maxToolCalls allowToolCalls b world) b).2 = .ok intent →
      (brain.classifyIntent
        (firstView ctx policy checkpoint maxToolCalls allowToolCalls b world) b').2 = .ok intent' →
      (ainvoke py ctx policy checkpoint maxToolCalls allowToolCalls b world
          recursionLimit).run.invocations =
        (ainvoke py (ctx.withBrain brain) policy checkpoint maxToolCalls allowToolCalls b' world
          recursionLimit).run.invocations) ∧
    ∀ call ∈ (ainvoke py ctx policy checkpoint maxToolCalls allowToolCalls b world
        recursionLimit).run.invocations,
      ∃ descriptor result,
        (allowedTools policy ctx.availableTools).find? (fun tool => tool.name = call.1) =
          some descriptor ∧
        validateToolCallSemantics py ctx.userQuery descriptor call.2 = .ok result ∧
        result.allowed = true := by
  refine ⟨?_, ?_⟩
  · intro resolution B' brain b' intent intent' hresolved hclassify hclassify'
    cases recursionLimit with
    | zero => rfl
    | succ limit =>
      obtain ⟨next, hnext, hrun⟩ := classify_alike py
        { ctx with availableTools := allowedTools policy ctx.availableTools }
        (initialRun checkpoint policy maxToolCalls allowToolCalls b world) hclassify limit
      obtain ⟨next', hnext', hrun'⟩ := classify_alike py
        { ctx.withBrain brain with availableTools := allowedTools policy ctx.availableTools }
        (initialRun checkpoint policy maxToolCalls allowToolCalls b' world) hclassify' limit
      have halike : Alike .planAction next next' := by
        refine ⟨⟨?_, ?_, ?_, ?_⟩, fun h => by cases h⟩
        · exact hnext.callBudget.trans hnext'.callBudget.symm
        · exact hnext.world.trans hnext'.world.symm
        · exact hnext.invocations.trans hnext'.invocations.symm
        · exact hnext.pendingCall.trans hnext'.pendingCall.symm
      unfold ainvoke
      rw [hrun]
      change _ = (runFor py { ctx.withBrain brain with
        availableTools := allowedTools policy ctx.availableTools } (limit + 1) .classifyIntent
          (initialRun checkpoint policy maxToolCalls allowToolCalls b' world)).run.invocations
      rw [hrun']
      exact runFor_alike
        { ctx with availableTools := allowedTools policy ctx.availableTools } brain hresolved limit
          (by decide) halike
  · exact invocations_vetted py _ recursionLimit .classifyIntent
      _ (fun call hcall => by cases hcall)

/-- A brain that would rather read another site. -/
def wilfulBrain : AgentBrain Unit where
  classifyIntent _ b := (b, .ok "other")
  planAction _ b := (b, .ok {
    action := "tool_call", toolName := "get_asset_status"
    payload := [("site_code", .str "PLANT-2")] })
  respond _ b := (b, .ok "")

theorem ainvoke_steering_asset :
    (ainvoke .ascii assetContext { allowedToolNames := ["get_asset_status"] } {} 4 true () ()
        25).run.invocations.length = 1 ∧
      (ainvoke .ascii assetContext { allowedToolNames := ["get_asset_status"] } {} 4 true () ()
          25).run.invocations =
        (ainvoke .ascii (assetContext.withBrain wilfulBrain)
          { allowedToolNames := ["get_asset_status"] } {} 4 true () () 25).run.invocations := by
  obtain ⟨resolution, hresolved⟩ : ∃ resolution,
      resolveIntent .ascii assetContext.userQuery = .ok (some resolution) := by
    have hsome : (resolveIntent .ascii assetContext.userQuery).toOption.join.any
        (fun _ => true) = true := by
      decide +kernel
    obtain ⟨resolution, hresolved, -⟩ := resolution_of_any hsome
    exact ⟨resolution, hresolved⟩
  refine ⟨by decide +kernel, ?_⟩
  exact (ainvoke_steering .ascii assetContext { allowedToolNames := ["get_asset_status"] } {} 4 true
    () () 25).1 resolution Unit wilfulBrain () "asset_status" "other" hresolved rfl rfl

end HotAirBalloon.Agent
