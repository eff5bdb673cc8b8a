import HotAirBalloon.Agent.Workflow

/-!
# What a visit can do

`VisitStep` lists everything a node can do to the tool calls of a run: to the budget, the
pending call, the calls of the invoker. All invariants of runs are derived from
`runNode_step`, which says that nothing else happens, and from `runFor_invariant`, the
induction over the visits of a run.
-/

namespace HotAirBalloon.Agent

open Python Gateway Kernel

variable {B W : Type} {py : Interpreter} {ctx : GraphContext B W}

/-! ## Steps -/

/-- Nothing about tool calls changed. -/
structure SameCalls (run run' : RunState B W) : Prop where
  callBudget : run'.callBudget = run.callBudget
  invocations : run'.invocations = run.invocations
  pendingCall : run'.state.pendingCall = run.state.pendingCall
  visits : run'.visits = run.visits

theorem SameCalls.refl (run : RunState B W) : SameCalls run run := ⟨rfl, rfl, rfl, rfl⟩

/-- A call that passed the checks of the tool node. -/
def Vetted (py : Interpreter) (ctx : GraphContext B W) (call : String × Payload) : Prop :=
  ∃ descriptor result, findDescriptor ctx call.1 = some descriptor ∧
    validateToolCallSemantics py ctx.userQuery descriptor call.2 = .ok result ∧
      result.allowed = true

/-- The edges that leave the tool calls alone. -/
inductive QuietEdge (run : RunState B W) : Node → Option Node → Prop
  | classified : QuietEdge run .classifyIntent (some .planAction)
  | planned (h : 0 < run.callBudget.remainingCalls) : QuietEdge run .planAction (some .toolCall)
  | declined : QuietEdge run .planAction (some .respond)
  | blocked : QuietEdge run .toolCall (some .respond)
  | idle (h : run.state.pendingCall = none) : QuietEdge run .observeResult (some .decideNextStep)
  | again (h : 0 < run.callBudget.remainingCalls) :
      QuietEdge run .decideNextStep (some .planAction)
  | exhausted (h : ¬0 < run.callBudget.remainingCalls) :
      QuietEdge run .decideNextStep (some .respond)
  | answered : QuietEdge run .respond none

/-- A call of the invoker: it was vetted, the budget allowed it, and it is the only change but
for the pending call. -/
structure Called (py : Interpreter) (ctx : GraphContext B W) (toolName : String)
    (run run' : RunState B W) : Prop where
  vetted : Vetted py ctx (toolName, run.state.plannedAction.payload)
  canCall : run.callBudget.canCall toolName = true
  callBudget : run'.callBudget = run.callBudget
  invocations : run'.invocations = run.invocations ++ [(toolName, run.state.plannedAction.payload)]
  visits : run'.visits = run.visits

inductive VisitStep (py : Interpreter) (ctx : GraphContext B W) :
    Node → RunState B W → RunState B W → Except PyError (Option Node) → Prop
  | quiet {node next run run'} (same : SameCalls run run') (edge : QuietEdge run node next) :
      VisitStep py ctx node run run' (.ok next)
  | raised {node run run' e} (same : SameCalls run run') : VisitStep py ctx node run run' (.error e)
  | invokerRaised {toolName run run' e} (called : Called py ctx toolName run run') :
      VisitStep py ctx .toolCall run run' (.error e)
  | invalidIdentity {toolName run run'} (called : Called py ctx toolName run run') :
      VisitStep py ctx .toolCall run run' (.ok (some .respond))
  | answered {toolName run run' toolCall} (called : Called py ctx toolName run run')
      (pending : run'.state.pendingCall = some toolCall) (name : toolCall.toolName = toolName) :
      VisitStep py ctx .toolCall run run' (.ok (some .observeResult))
  | observed {run run' toolCall} (pending : run.state.pendingCall = some toolCall)
      (record : run.callBudget.record toolCall.toolName = .ok run'.callBudget)
      (invocations : run'.invocations = run.invocations) (settled : run'.state.pendingCall = none)
      (visits : run'.visits = run.visits) :
      VisitStep py ctx .observeResult run run' (.ok (some .decideNextStep))

/-! ## The nodes -/

theorem route_same (run : RunState B W) (action : PlannedAction) :
    SameCalls run (route run action).1 := by
  unfold route
  dsimp only
  split <;> exact ⟨rfl, rfl, rfl, rfl⟩

theorem route_next (run : RunState B W) (action : PlannedAction) :
    (route run action).2 =
      .ok (some (if action.action = "tool_call" then Node.toolCall else Node.respond)) := rfl

theorem remaining_of_canCall {budget : ToolCallBudget} {toolName : String}
    (h : budget.canCall toolName = true) : 0 < budget.remainingCalls := by
  unfold ToolCallBudget.canCall at h
  simp only [Bool.and_eq_true, decide_eq_true_eq] at h
  exact h.1

theorem callable_remaining {run : RunState B W} {tool : ToolDescriptor}
    (h : tool ∈ callableTools ctx run) : 0 < run.callBudget.remainingCalls :=
  remaining_of_canCall (List.mem_filter.mp h).2

/-- Routing to the tool node needs a callable tool. -/
theorem route_step {run run' : RunState B W} {action : PlannedAction} (same : SameCalls run run')
    (h : action.action = "tool_call" → 0 < run.callBudget.remainingCalls) :
    VisitStep py ctx .planAction run (route run' action).1 (route run' action).2 := by
  have hroute := route_same run' action
  have hsame : SameCalls run (route run' action).1 :=
    ⟨hroute.callBudget.trans same.callBudget, hroute.invocations.trans same.invocations,
      hroute.pendingCall.trans same.pendingCall, hroute.visits.trans same.visits⟩
  rw [route_next]
  by_cases haction : action.action = "tool_call"
  · rw [if_pos haction]
    exact .quiet hsame (.planned (h haction))
  · rw [if_neg haction]
    exact .quiet hsame .declined

theorem classifyIntent_step (run : RunState B W) :
    VisitStep py ctx .classifyIntent run (classifyIntent ctx run).1 (classifyIntent ctx run).2 := by
  unfold classifyIntent
  rcases ctx.brain.classifyIntent (agentState ctx run ctx.availableTools) run.brain with ⟨brain, r⟩
  cases r with
  | error e => exact .raised ⟨rfl, rfl, rfl, rfl⟩
  | ok intent => exact .quiet ⟨rfl, rfl, rfl, rfl⟩ .classified

theorem respondAction_ne : respondAction.action ≠ "tool_call" := by decide

theorem planResolved_step (run : RunState B W) (resolution : IntentResolution) :
    VisitStep py ctx .planAction run (planResolved ctx run resolution).1
      (planResolved ctx run resolution).2 := by
  unfold planResolved
  dsimp only
  split
  · exact route_step ⟨rfl, rfl, rfl, rfl⟩ (fun h => absurd h respondAction_ne)
  · split
    · exact route_step ⟨rfl, rfl, rfl, rfl⟩ (fun h => absurd h respondAction_ne)
    · rename_i toolName _ hmem
      refine route_step ⟨rfl, rfl, rfl, rfl⟩ ?_
      intro _
      obtain ⟨tool, htool, -⟩ := List.mem_map.mp (not_not.mp hmem)
      exact callable_remaining htool

theorem planByBrain_step (run : RunState B W) :
    VisitStep py ctx .planAction run (planByBrain ctx run).1 (planByBrain ctx run).2 := by
  unfold planByBrain
  dsimp only
  split
  · exact route_step ⟨rfl, rfl, rfl, rfl⟩ (fun h => absurd h respondAction_ne)
  · rename_i hempty
    rcases ctx.brain.planAction (agentState ctx run (callableTools ctx run)) run.brain
      with ⟨brain, r⟩
    cases r with
    | error e => exact .raised ⟨rfl, rfl, rfl, rfl⟩
    | ok planned =>
      refine route_step ⟨rfl, rfl, rfl, rfl⟩ ?_
      intro _
      have hne : callableTools ctx run ≠ [] := by
        intro h
        rw [h] at hempty
        exact hempty rfl
      obtain ⟨tool, htool⟩ := List.exists_mem_of_ne_nil _ hne
      exact callable_remaining htool

theorem planAction_step (run : RunState B W) :
    VisitStep py ctx .planAction run (planAction py ctx run).1 (planAction py ctx run).2 := by
  unfold planAction
  split
  · exact .raised (SameCalls.refl run)
  · exact planResolved_step run _
  · exact planByBrain_step run

theorem callTool_step {run run' : RunState B W} {toolName : String} (same : SameCalls run run')
    (vetted : Vetted py ctx (toolName, run.state.plannedAction.payload))
    (canCall : run.callBudget.canCall toolName = true) :
    VisitStep py ctx .toolCall run
      (callTool ctx run' toolName run.state.plannedAction.payload).1
      (callTool ctx run' toolName run.state.plannedAction.payload).2 := by
  unfold callTool policyBlocked
  rcases ctx.toolInvoker toolName run.state.plannedAction.payload run'.world with ⟨world, outcome⟩
  have called : ∀ run'' : RunState B W, run''.callBudget = run'.callBudget →
      run''.invocations = run'.invocations ++ [(toolName, run.state.plannedAction.payload)] →
      run''.visits = run'.visits → Called py ctx toolName run run'' := by
    intro run'' hbudget hinvocations hvisits
    exact ⟨vetted, canCall, hbudget.trans same.callBudget, by rw [hinvocations, same.invocations],
      hvisits.trans same.visits⟩
  cases outcome with
  | error e => exact .invokerRaised (called _ rfl rfl rfl)
  | ok toolCall =>
    dsimp only
    split
    · exact .invalidIdentity (called _ rfl rfl rfl)
    · rename_i hname
      exact .answered (called _ rfl rfl rfl) rfl (not_not.mp hname)

theorem invokeTool_step (run : RunState B W) :
    VisitStep py ctx .toolCall run (invokeTool py ctx run).1 (invokeTool py ctx run).2 := by
  unfold invokeTool
  dsimp only
  split
  · rename_i descriptor hdescriptor hcan
    split
    · exact .raised (SameCalls.refl run)
    · rename_i result hresult
      split
      · exact .quiet ⟨rfl, rfl, rfl, rfl⟩ .blocked
      · rename_i hallowed
        refine callTool_step ⟨rfl, rfl, rfl, rfl⟩ ?_ hcan
        exact ⟨descriptor, result, hdescriptor, hresult, by simpa using hallowed⟩
  · exact .quiet ⟨rfl, rfl, rfl, rfl⟩ .blocked

theorem observeResult_step (run : RunState B W) :
    VisitStep py ctx .observeResult run (observeResult run).1 (observeResult run).2 := by
  unfold observeResult
  split
  · rename_i hpending
    exact .quiet (SameCalls.refl run) (.idle hpending)
  · rename_i toolCall hpending
    split
    · exact .raised (SameCalls.refl run)
    · rename_i budget hrecord
      exact .observed hpending hrecord rfl rfl rfl

theorem decideNextStep_step (run : RunState B W) :
    VisitStep py ctx .decideNextStep run (decideNextStep run).1 (decideNextStep run).2 := by
  unfold decideNextStep
  by_cases h : 0 < run.callBudget.remainingCalls
  · rw [if_pos h]
    exact .quiet (SameCalls.refl run) (.again h)
  · rw [if_neg h]
    exact .quiet (SameCalls.refl run) (.exhausted h)

theorem respond_step (py : Interpreter) (ctx : GraphContext B W) (run : RunState B W) :
    VisitStep py ctx .respond run (respond ctx run).1 (respond ctx run).2 := by
  unfold respond finishAnswer
  split
  · exact .quiet (SameCalls.refl run) .answered
  · split
    · split
      · exact .raised (SameCalls.refl run)
      · exact .quiet ⟨rfl, rfl, rfl, rfl⟩ .answered
    · split
      · exact .raised ⟨rfl, rfl, rfl, rfl⟩
      · exact .quiet ⟨rfl, rfl, rfl, rfl⟩ .answered

/-- Everything a node can do. -/
theorem runNode_step (py : Interpreter) (ctx : GraphContext B W) (node : Node)
    (run : RunState B W) :
    VisitStep py ctx node run (runNode py ctx node run).1 (runNode py ctx node run).2 := by
  cases node with
  | classifyIntent => exact classifyIntent_step run
  | planAction => exact planAction_step run
  | toolCall => exact invokeTool_step run
  | observeResult => exact observeResult_step run
  | decideNextStep => exact decideNextStep_step run
  | respond => exact respond_step py ctx run

/-! ## Runs -/

/-- The run as its node finds it: the visit is already counted. -/
def RunState.entering (run : RunState B W) (node : Node) : RunState B W :=
  { run with visits := run.visits ++ [node] }

/-- What follows a visit. -/
def resume (py : Interpreter) (ctx : GraphContext B W) (limit : Nat) : Visit B W → Progress B W
  | (run, .ok (some next)) => runFor py ctx limit next run
  | (run, .ok none) => .finished run
  | (run, .error e) => .raised e run

theorem runFor_succ (limit : Nat) (node : Node) (run : RunState B W) :
    runFor py ctx (limit + 1) node run =
      resume py ctx limit (runNode py ctx node (run.entering node)) := rfl

/-- The induction over a run: `At` holds before each visit, `Done` when the run ends. -/
theorem runFor_invariant (py : Interpreter) (ctx : GraphContext B W)
    (At : Node → RunState B W → Prop) (Done : RunState B W → Prop)
    (step : ∀ node run run' next, At node run →
      VisitStep py ctx node (run.entering node) run' (.ok (some next)) → At next run')
    (finish : ∀ node run run', At node run →
      VisitStep py ctx node (run.entering node) run' (.ok none) → Done run')
    (raise : ∀ node run run' e, At node run →
      VisitStep py ctx node (run.entering node) run' (.error e) → Done run')
    (limit : Nat) {node : Node} {run : RunState B W} (h : At node run) :
    match runFor py ctx limit node run with
    | .finished run' => Done run'
    | .raised _ run' => Done run'
    | .before node' run' => At node' run' ∧ run'.visits.length = run.visits.length + limit := by
  induction limit generalizing node run with
  | zero => exact ⟨h, rfl⟩
  | succ limit ih =>
    have hstep := runNode_step py ctx node (run.entering node)
    rw [runFor_succ]
    revert hstep
    rcases runNode py ctx node (run.entering node) with ⟨run', r⟩
    intro hstep
    rcases r with e | _ | next
    · exact raise node run run' e h hstep
    · exact finish node run run' h hstep
    · have hvisits : run'.visits.length = run.visits.length + 1 := by
        have : run'.visits = (run.entering node).visits := by
          cases hstep with
          | quiet same _ => exact same.visits
          | invalidIdentity called => exact called.visits
          | answered called _ _ => exact called.visits
          | observed _ _ _ _ visits => exact visits
        simp [this, RunState.entering]
      have := ih (step node run run' next h hstep)
      revert this
      unfold resume
      dsimp only
      cases runFor py ctx limit next run' with
      | finished r => exact id
      | raised e r => exact id
      | before node' r =>
        rintro ⟨hat, hlen⟩
        exact ⟨hat, by omega⟩

end HotAirBalloon.Agent
