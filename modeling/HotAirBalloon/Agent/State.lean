import HotAirBalloon.Agent.SemanticValidation

/-!
# State of the agent workflow

`langgraph/state.py` and `langgraph/context.py`: the graph state with its reducers, the
mutable tool-call budget, the view of the state that the brain receives, and the context of
a run.

A run acts on three things outside the graph: the brain (an LLM, with a state `B` of its
own), the world `W` behind the tool invoker, and the decision observer, whose exceptions are
swallowed and which therefore only receives events.
-/

namespace HotAirBalloon.Agent

open Python Gateway Kernel

inductive OrchestrationFinishReason where
  | completed
  | toolLimitReached
  | policyBlocked
  | failed
  deriving DecidableEq

structure PlannedAction where
  /-- `"respond"` or `"tool_call"`; a brain may return anything else. -/
  action : String
  toolName : String
  payload : Payload
  answer : Option String := none
  intent : Option String := none
  confidence : Option PyFloat := none
  rationale : Option String := none

structure WorkingSetEntity where
  kind : String
  identifier : String
  deriving DecidableEq

structure ConversationWorkingSet where
  activeIntent : Option String
  referencedEntities : List WorkingSetEntity
  deriving DecidableEq

inductive MessageRole where
  | user
  | assistant
  deriving DecidableEq

structure ConversationMessage where
  role : MessageRole
  content : String
  deriving DecidableEq

def currentWorkflowVersion : Nat := 3

def maxWorkingSetEntities : Nat := 32

/-- `WORKING_SET_ENTITY_FIELDS`. -/
def workingSetEntityFields : List String :=
  ["asset_code", "asset_id", "part_code", "part_id", "site_code", "ticket_id", "work_order_code",
    "work_order_id"]

/-- `a or b` on optional strings. -/
def orElse (a b : Option String) : Option String := if a.getD "" = "" then b else a

/-- The last `n` items, `items[-n:]`. -/
def lastItems {α : Type} (n : Nat) (items : List α) : List α := items.drop (items.length - n)

/-- An entity is its own key, so a later duplicate replaces nothing. -/
def mergeWorkingSets (current update : ConversationWorkingSet) : ConversationWorkingSet where
  activeIntent := orElse update.activeIntent current.activeIntent
  referencedEntities := lastItems maxWorkingSetEntities
    (current.referencedEntities ++ update.referencedEntities).eraseDups

def workingSetEntities (payload : Payload) : List WorkingSetEntity :=
  payload.filterMap fun (fieldName, value) =>
    match value with
    | .str identifier =>
      if fieldName ∈ workingSetEntityFields ∧ 0 < identifier.length ∧ identifier.length ≤ 128 then
        some ⟨fieldName, identifier⟩
      else none
    | _ => none

structure GraphState where
  workflowVersion : Nat
  messages : List ConversationMessage
  workingSet : ConversationWorkingSet
  intent : String
  plannedAction : PlannedAction
  pendingCall : Option ToolCallRecord
  toolCalls : List ToolCallRecord
  answer : String
  finishReason : Option OrchestrationFinishReason

/-! ## The budget -/

structure ToolCallBudget where
  remainingCalls : Int
  maxCallsPerTool : Int
  totalCalls : Int := 0
  perToolCalls : Dict Int := []

namespace ToolCallBudget

def canCall (budget : ToolCallBudget) (toolName : String) : Bool :=
  decide (0 < budget.remainingCalls) &&
    decide ((budget.perToolCalls.get? toolName).getD 0 < budget.maxCallsPerTool)

def record (budget : ToolCallBudget) (toolName : String) : Except PyError ToolCallBudget :=
  if !budget.canCall toolName then
    throw (PyError.runtimeError "Tool-call budget was exhausted before recording the result")
  else
    return { budget with
      totalCalls := budget.totalCalls + 1
      remainingCalls := budget.remainingCalls - 1
      perToolCalls :=
        budget.perToolCalls.set toolName ((budget.perToolCalls.get? toolName).getD 0 + 1) }

end ToolCallBudget

/-! ## Brain, observer and context -/

/-- What the brain sees of a run. -/
structure AgentStateView where
  userQuery : String
  contextPrompt : String
  availableTools : List ToolDescriptor
  conversationHistory : List ConversationMessage
  intent : String
  plannedAction : PlannedAction
  pendingCall : Option ToolCallRecord
  toolCalls : List ToolCallRecord
  totalToolCalls : Int
  perToolCalls : Dict Int
  remainingToolCalls : Int
  maxCallsPerTool : Int
  answer : String
  finishReason : Option OrchestrationFinishReason

structure AgentBrain (B : Type) where
  classifyIntent : AgentStateView → B → B × Except PyError String
  planAction : AgentStateView → B → B × Except PyError PlannedAction
  respond : AgentStateView → B → B × Except PyError String

/-- `tool_invoker(tool_name, payload)`. -/
abbrev ToolInvoker (W : Type) := String → Payload → W → W × Except PyError ToolCallRecord

inductive DecisionStage where
  | planning
  | preExecution
  | resultValidation
  deriving DecidableEq

inductive DecisionOutcome where
  | selected
  | allowed
  | blocked
  deriving DecidableEq

structure AssistantDecisionEvent where
  conversationId : Option Uuid
  stage : DecisionStage
  outcome : DecisionOutcome
  source : String
  intent : Option String := none
  confidence : Option PyFloat := none
  action : Option String := none
  toolName : Option String := none
  reasonCode : Option String := none
  callableToolCount : Option Nat := none
  deriving DecidableEq

structure GraphContext (B W : Type) where
  brain : AgentBrain B
  availableTools : List ToolDescriptor
  toolInvoker : ToolInvoker W
  /-- `retrieved_context.render()`. -/
  contextPrompt : String
  userQuery : String
  /-- `response_composer.compose(query, evidence).answer`. -/
  composeAnswer : String → List EvidenceBlock → Except PyError String
  conversationId : Option Uuid := none

inductive Node where
  | classifyIntent
  | planAction
  | toolCall
  | observeResult
  | decideNextStep
  | respond
  deriving DecidableEq

/-- A run in progress: the graph state, the budget, brain and world, and what was done so
far: the calls of the tool invoker, the visited nodes and the decision events. -/
structure RunState (B W : Type) where
  state : GraphState
  callBudget : ToolCallBudget
  brain : B
  world : W
  invocations : List (String × Payload) := []
  visits : List Node := []
  decisions : List AssistantDecisionEvent := []

/-- `context.agent_state(state, available_tools=…)`. -/
def agentState {B W : Type} (ctx : GraphContext B W) (run : RunState B W)
    (availableTools : List ToolDescriptor) : AgentStateView where
  userQuery := ctx.userQuery
  contextPrompt := ctx.contextPrompt
  availableTools := availableTools
  conversationHistory := run.state.messages
  intent := run.state.intent
  plannedAction := run.state.plannedAction
  pendingCall := run.state.pendingCall
  toolCalls := run.state.toolCalls
  totalToolCalls := run.callBudget.totalCalls
  perToolCalls := run.callBudget.perToolCalls
  remainingToolCalls := run.callBudget.remainingCalls
  maxCallsPerTool := run.callBudget.maxCallsPerTool
  answer := run.state.answer
  finishReason := run.state.finishReason

/-- `record_decision`. -/
def RunState.recordDecision {B W : Type} (run : RunState B W) (event : AssistantDecisionEvent) :
    RunState B W :=
  { run with decisions := run.decisions ++ [event] }

end HotAirBalloon.Agent
