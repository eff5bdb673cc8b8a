import HotAirBalloon.Agent.State

/-!
# The agent workflow

The six nodes of the graph, the run of the compiled graph and
`LangGraphAgentOrchestrator.run`. A node returns the run it leaves behind and the next node,
`none` at the end of the graph; when it raises, what was done before it stays done.
-/

namespace HotAirBalloon.Agent

open Python Gateway Kernel

variable {B W : Type}

/-- What a node leaves behind, and the next node or the exception. -/
abbrev Visit (B W : Type) := RunState B W × Except PyError (Option Node)

/-! ## classify_intent -/

def classifyIntent (ctx : GraphContext B W) (run : RunState B W) : Visit B W :=
  match ctx.brain.classifyIntent (agentState ctx run ctx.availableTools) run.brain with
  | (brain, .error e) => ({ run with brain := brain }, .error e)
  | (brain, .ok intent) =>
    let update : ConversationWorkingSet :=
      ⟨some intent, run.state.workingSet.referencedEntities⟩
    ({ run with
        brain := brain
        state := { run.state with
          intent := intent, workingSet := mergeWorkingSets run.state.workingSet update } },
      .ok (some .planAction))

/-! ## plan_action -/

/-- `_route`. -/
def route (run : RunState B W) (action : PlannedAction) : Visit B W :=
  let destination := if action.action = "tool_call" then Node.toolCall else Node.respond
  let state :=
    if action.action = "respond" ∧ action.answer.getD "" ≠ "" then
      { run.state with
        plannedAction := action, answer := action.answer.getD ""
        finishReason := some .completed }
    else { run.state with plannedAction := action }
  ({ run with state := state }, .ok (some destination))

/-- `{"action": "respond", "tool_name": "", "payload": {}}`. -/
def respondAction : PlannedAction := { action := "respond", toolName := "", payload := [] }

/-- The available tools that the budget lets the run call. -/
def callableTools (ctx : GraphContext B W) (run : RunState B W) : List ToolDescriptor :=
  ctx.availableTools.filter (fun tool => run.callBudget.canCall tool.name)

/-- `text or None`. -/
def nonempty (text : String) : Option String := if text = "" then none else some text

/-- The double nearest to 0.8. -/
def lowConfidence : ℚ := 3602879701896397 / 4503599627370496

/-- The branch of `plan_action` for a resolved query. -/
def planResolved (ctx : GraphContext B W) (run : RunState B W) (resolution : IntentResolution) :
    Visit B W :=
  let callable := callableTools ctx run
  let event : AssistantDecisionEvent := {
    conversationId := ctx.conversationId, stage := .planning, outcome := .selected
    source := "deterministic", intent := some resolution.intent.value
    confidence := some (.finite 1), action := some "respond", toolName := resolution.toolName
    callableToolCount := some callable.length }
  match resolution.toolName with
  | none =>
    route (run.recordDecision { event with reasonCode := some "direct_response_intent" })
      respondAction
  | some toolName =>
    if toolName ∉ callable.map (·.name) then
      route (run.recordDecision
          { event with outcome := .blocked, reasonCode := some "target_tool_unavailable" })
        respondAction
    else
      route (run.recordDecision { event with action := some "tool_call" })
        { action := "tool_call", toolName := toolName, payload := resolution.payload }

/-- The branch of `plan_action` for a query that no pattern resolves. -/
def planByBrain (ctx : GraphContext B W) (run : RunState B W) : Visit B W :=
  let callable := callableTools ctx run
  if callable.isEmpty then
    route (run.recordDecision {
        conversationId := ctx.conversationId, stage := .planning, outcome := .blocked
        source := "policy", intent := nonempty run.state.intent, action := some "respond"
        reasonCode := some "no_callable_tools", callableToolCount := some 0 })
      respondAction
  else
    match ctx.brain.planAction (agentState ctx run callable) run.brain with
    | (brain, .error e) => ({ run with brain := brain }, .error e)
    | (brain, .ok planned) =>
      route ({ run with brain := brain }.recordDecision {
          conversationId := ctx.conversationId, stage := .planning, outcome := .selected
          source := "model", intent := planned.intent.or (nonempty run.state.intent)
          confidence := planned.confidence, action := some planned.action
          toolName := nonempty planned.toolName
          reasonCode :=
            if planned.confidence.any (fun (c : PyFloat) => c.ltRat lowConfidence)
              then some "low_confidence_response"
            else none
          callableToolCount := some callable.length })
        planned

def planAction (py : Interpreter) (ctx : GraphContext B W) (run : RunState B W) : Visit B W :=
  match resolveIntent py ctx.userQuery with
  | .error e => (run, .error e)
  | .ok (some resolution) => planResolved ctx run resolution
  | .ok none => planByBrain ctx run

/-! ## tool_call -/

/-- `Command(update={"answer": …, "finish_reason": POLICY_BLOCKED}, goto="respond")`. -/
def policyBlocked (run : RunState B W) (answer : String) : Visit B W :=
  ({ run with state := { run.state with answer := answer, finishReason := some .policyBlocked } },
    .ok (some .respond))

/-- The decision event of the tool node. -/
def toolDecision (ctx : GraphContext B W) (run : RunState B W) (stage : DecisionStage)
    (outcome : DecisionOutcome) (source : String) (toolName reasonCode : Option String) :
    AssistantDecisionEvent where
  conversationId := ctx.conversationId
  stage := stage
  outcome := outcome
  source := source
  intent := run.state.plannedAction.intent.or (nonempty run.state.intent)
  confidence := run.state.plannedAction.confidence
  action := some "tool_call"
  toolName := toolName
  reasonCode := reasonCode

/-- The call of the invoker, after every check. -/
def callTool (ctx : GraphContext B W) (run : RunState B W) (toolName : String) (payload : Payload) :
    Visit B W :=
  let (world, outcome) := ctx.toolInvoker toolName payload run.world
  let run := { run with world := world, invocations := run.invocations ++ [(toolName, payload)] }
  match outcome with
  | .error e => (run, .error e)
  | .ok toolCall =>
    if toolCall.toolName ≠ toolName then
      policyBlocked run "Tool call result blocked because its identity was invalid."
    else
      ({ run with state := { run.state with pendingCall := some toolCall } },
        .ok (some .observeResult))

/-- `next(tool for tool in available_tools if tool.name == tool_name)`. -/
def findDescriptor (ctx : GraphContext B W) (toolName : String) : Option ToolDescriptor :=
  ctx.availableTools.find? (fun tool => tool.name = toolName)

def invokeTool (py : Interpreter) (ctx : GraphContext B W) (run : RunState B W) : Visit B W :=
  let action := run.state.plannedAction
  match findDescriptor ctx action.toolName, run.callBudget.canCall action.toolName with
  | some descriptor, true =>
    match validateToolCallSemantics py ctx.userQuery descriptor action.payload with
    | .error e => (run, .error e)
    | .ok result =>
      if !result.allowed then
        policyBlocked
          (run.recordDecision (toolDecision ctx run .preExecution .blocked "semantic_validator"
            (some action.toolName) (some ((result.reason.map (·.value)).getD "unknown"))))
          "Tool call blocked because it did not match the user's request."
      else
        callTool ctx
          ((run.recordDecision
              (toolDecision ctx run .preExecution .allowed "semantic_validator"
                (some action.toolName) none)).recordDecision
            (toolDecision ctx run .resultValidation .allowed "result_validator"
              (some action.toolName) none))
          action.toolName action.payload
  | _, _ =>
    policyBlocked
      (run.recordDecision (toolDecision ctx run .preExecution .blocked "policy"
        (nonempty action.toolName) (some "tool_call_policy")))
      "Tool call blocked by policy."

/-! ## observe_result, decide_next_step, respond -/

def observeResult (run : RunState B W) : Visit B W :=
  match run.state.pendingCall with
  | none => (run, .ok (some .decideNextStep))
  | some pendingCall =>
    match run.callBudget.record pendingCall.toolName with
    | .error e => (run, .error e)
    | .ok budget =>
      let update : ConversationWorkingSet :=
        ⟨run.state.workingSet.activeIntent, workingSetEntities pendingCall.payload⟩
      ({ run with
          callBudget := budget
          state := { run.state with
            pendingCall := none
            toolCalls := run.state.toolCalls ++ [pendingCall]
            workingSet := mergeWorkingSets run.state.workingSet update } },
        .ok (some .decideNextStep))

def decideNextStep (run : RunState B W) : Visit B W :=
  (run, .ok (some (if 0 < run.callBudget.remainingCalls then .planAction else .respond)))

/-- The end of `respond`: the answer is normalised and becomes a message. -/
def finishAnswer (ctx : GraphContext B W) (run : RunState B W) (answer : String) : Visit B W :=
  let normalized := if strip answer = "" then "No answer generated." else strip answer
  ({ run with state := { run.state with
      answer := normalized
      messages := run.state.messages ++ [⟨.user, ctx.userQuery⟩, ⟨.assistant, normalized⟩]
      finishReason := some (run.state.finishReason.getD .completed) } },
    .ok none)

def respond (ctx : GraphContext B W) (run : RunState B W) : Visit B W :=
  if run.state.finishReason.isSome ∧ run.state.answer ≠ "" then (run, .ok none)
  else if !run.state.toolCalls.isEmpty then
    match ctx.composeAnswer ctx.userQuery (run.state.toolCalls.flatMap (·.evidence)) with
    | .error e => (run, .error e)
    | .ok answer => finishAnswer ctx run answer
  else
    match ctx.brain.respond (agentState ctx run ctx.availableTools) run.brain with
    | (brain, .error e) => ({ run with brain := brain }, .error e)
    | (brain, .ok answer) => finishAnswer ctx { run with brain := brain } answer

/-! ## The graph -/

def runNode (py : Interpreter) (ctx : GraphContext B W) : Node → RunState B W → Visit B W
  | .classifyIntent => classifyIntent ctx
  | .planAction => planAction py ctx
  | .toolCall => invokeTool py ctx
  | .observeResult => observeResult
  | .decideNextStep => decideNextStep
  | .respond => respond ctx

/-- One visit of a node. -/
def visit (py : Interpreter) (ctx : GraphContext B W) (node : Node) (run : RunState B W) :
    Visit B W :=
  runNode py ctx node { run with visits := run.visits ++ [node] }

/-- A run of the compiled graph: at its end, cut by an exception, or before a node. -/
inductive Progress (B W : Type) where
  | finished (run : RunState B W)
  | raised (e : PyError) (run : RunState B W)
  | before (node : Node) (run : RunState B W)

def Progress.run : Progress B W → RunState B W
  | finished run | raised _ run | before _ run => run

/-- At most `limit` visits from a node on. -/
def runFor (py : Interpreter) (ctx : GraphContext B W) : Nat → Node → RunState B W → Progress B W
  | 0, node, run => .before node run
  | limit + 1, node, run =>
    match visit py ctx node run with
    | (run, .ok (some next)) => runFor py ctx limit next run
    | (run, .ok none) => .finished run
    | (run, .error e) => .raised e run

/-! ## The orchestrator -/

structure ToolCallPolicy where
  allowedToolNames : List String
  maxTotalCalls : Int := 4
  maxCallsPerTool : Int := 1

/-- The channels that a checkpoint of the conversation's thread keeps. -/
structure Checkpoint where
  messages : List ConversationMessage := []
  workingSet : ConversationWorkingSet := ⟨none, []⟩

def effectiveMaxToolCalls (policy : ToolCallPolicy) (maxToolCalls : Int) (allowToolCalls : Bool) :
    Int :=
  if allowToolCalls then min (max maxToolCalls 0) policy.maxTotalCalls else 0

def allowedTools (policy : ToolCallPolicy) (availableTools : List ToolDescriptor) :
    List ToolDescriptor :=
  availableTools.filter (fun tool => tool.name ∈ policy.allowedToolNames)

/-- `initial_state`, merged into the checkpoint by the reducers of the channels. -/
def initialState (checkpoint : Checkpoint) : GraphState where
  workflowVersion := currentWorkflowVersion
  messages := checkpoint.messages
  workingSet := mergeWorkingSets checkpoint.workingSet ⟨none, []⟩
  intent := ""
  plannedAction := respondAction
  pendingCall := none
  toolCalls := []
  answer := ""
  finishReason := none

/-- The run with which `LangGraphAgentOrchestrator.run` enters the graph. -/
def initialRun (checkpoint : Checkpoint) (policy : ToolCallPolicy) (maxToolCalls : Int)
    (allowToolCalls : Bool) (brain : B) (world : W) : RunState B W where
  state := initialState checkpoint
  callBudget := {
    remainingCalls := effectiveMaxToolCalls policy maxToolCalls allowToolCalls
    maxCallsPerTool := policy.maxCallsPerTool }
  brain := brain
  world := world

/-- `workflow.ainvoke(…)` under a recursion limit; the tools of the context are the available
tools that the policy allows. -/
def ainvoke (py : Interpreter) (ctx : GraphContext B W) (policy : ToolCallPolicy)
    (checkpoint : Checkpoint) (maxToolCalls : Int) (allowToolCalls : Bool) (brain : B) (world : W)
    (recursionLimit : Nat) : Progress B W :=
  runFor py { ctx with availableTools := allowedTools policy ctx.availableTools } recursionLimit
    .classifyIntent (initialRun checkpoint policy maxToolCalls allowToolCalls brain world)

structure AgentRunResult where
  answer : String
  agentName : String := "assistant.langgraph"
  modelName : String
  finishReason : OrchestrationFinishReason
  toolCalls : List ToolCallRecord
  evidence : List EvidenceBlock

/-- The result that `LangGraphAgentOrchestrator.run` builds from the final state. -/
def agentRunResult (modelName : String) (final : GraphState) : AgentRunResult where
  answer := if final.answer = "" then "No answer generated." else final.answer
  modelName := modelName
  finishReason := final.finishReason.getD .failed
  toolCalls := final.toolCalls
  evidence := final.toolCalls.flatMap (·.evidence)

end HotAirBalloon.Agent
