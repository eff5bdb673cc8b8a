import HotAirBalloon.Agent.Budget
import HotAirBalloon.Agent.CompletedExchange
import HotAirBalloon.Agent.Steering

/-!
# Runs of the agent behind the gateway

Two layers check the calls of a run. The graph lets the brain call tools that the policy allows and
the runtime has listed, within a budget and after the semantic validator; the gateway asks for the
site, the permission, the rate and the approval, and writes the audit record first. Nothing else in
a run touches the world (`ainvoke_world`), so every handler that a run has called stands behind both
(`ainvoke_guarded`).
-/

namespace HotAirBalloon.Agent

open Python Gateway Kernel User

variable {B W L : Type}

/-! ## The calls of a run and the world -/

/-- The world after some calls of the invoker. -/
def worldAfter (invoker : ToolInvoker W) (calls : List (String × Payload)) (world : W) : W :=
  calls.foldl (fun world call => (invoker call.1 call.2 world).1) world

theorem worldAfter_append (invoker : ToolInvoker W) (calls calls' : List (String × Payload))
    (world : W) : worldAfter invoker (calls ++ calls') world =
      worldAfter invoker calls' (worldAfter invoker calls world) := List.foldl_append

/-- What a visit does to the world: nothing, or what the call of the invoker does that it makes. -/
inductive Touched (ctx : GraphContext B W) (run run' : RunState B W) : Prop where
  | kept (world : run'.world = run.world) (invocations : run'.invocations = run.invocations)
  | called (call : String × Payload)
      (world : run'.world = (ctx.toolInvoker call.1 call.2 run.world).1)
      (invocations : run'.invocations = run.invocations ++ [call])

section

variable {py : Interpreter} {ctx : GraphContext B W} {run : RunState B W}

theorem touched_planResolved (resolution : IntentResolution) :
    Touched ctx run (planResolved ctx run resolution).1 := by
  unfold planResolved
  dsimp only
  split
  · exact .kept rfl rfl
  · split <;> exact .kept rfl rfl

theorem touched_planByBrain : Touched ctx run (planByBrain ctx run).1 := by
  unfold planByBrain
  dsimp only
  split
  · exact .kept rfl rfl
  · split <;> exact .kept rfl rfl

theorem touched_callTool (ctx : GraphContext B W) (run : RunState B W) (toolName : String)
    (payload : Payload) : Touched ctx run (callTool ctx run toolName payload).1 := by
  unfold callTool
  dsimp only
  split
  · exact .called (toolName, payload) rfl rfl
  · split <;> exact .called (toolName, payload) rfl rfl

theorem touched_invokeTool : Touched ctx run (invokeTool py ctx run).1 := by
  unfold invokeTool
  dsimp only
  split
  · split
    · exact .kept rfl rfl
    · split
      · exact .kept rfl rfl
      · rcases touched_callTool ctx ((run.recordDecision _).recordDecision _) _ _ with
          ⟨hworld, hinvocations⟩ | ⟨call, hworld, hinvocations⟩
        · exact .kept hworld hinvocations
        · exact .called call hworld hinvocations
  · exact .kept rfl rfl

theorem touched_runNode (py : Interpreter) (ctx : GraphContext B W) (node : Node)
    (run : RunState B W) : Touched ctx run (runNode py ctx node run).1 := by
  cases node with
  | classifyIntent =>
    change Touched ctx run (classifyIntent ctx run).1
    unfold classifyIntent
    split <;> exact .kept rfl rfl
  | planAction =>
    change Touched ctx run (planAction py ctx run).1
    unfold planAction
    split
    · exact .kept rfl rfl
    · exact touched_planResolved _
    · exact touched_planByBrain
  | toolCall => exact touched_invokeTool
  | observeResult =>
    change Touched ctx run (observeResult run).1
    unfold observeResult
    split
    · exact .kept rfl rfl
    · split <;> exact .kept rfl rfl
  | decideNextStep => exact .kept rfl rfl
  | respond =>
    change Touched ctx run (respond ctx run).1
    unfold respond
    split
    · exact .kept rfl rfl
    · split
      · split <;> exact .kept rfl rfl
      · split <;> exact .kept rfl rfl

end

/-- What every visit keeps holds of the run at its end. -/
theorem runFor_keeps {py : Interpreter} {ctx : GraphContext B W} {P : RunState B W → Prop}
    (hstep : ∀ node run, P run → P (runNode py ctx node (run.entering node)).1) (limit : Nat)
    {node : Node} {run : RunState B W} (h : P run) : P (runFor py ctx limit node run).run := by
  induction limit generalizing node run with
  | zero => exact h
  | succ limit ih =>
    have hnext := hstep node run h
    rw [runFor_succ]
    revert hnext
    rcases runNode py ctx node (run.entering node) with ⟨run', e | _ | next⟩
    · exact id
    · exact id
    · exact fun hnext => ih hnext

/-- The world of a run is touched by its calls and by nothing else. -/
theorem ainvoke_world (py : Interpreter) (ctx : GraphContext B W) (policy : ToolCallPolicy)
    (checkpoint : Checkpoint) (maxToolCalls : Int) (allowToolCalls : Bool) (brain : B) (world : W)
    (recursionLimit : Nat) :
    let result :=
      ainvoke py ctx policy checkpoint maxToolCalls allowToolCalls brain world recursionLimit
    result.run.world = worldAfter ctx.toolInvoker result.run.invocations world := by
  refine runFor_keeps (P := fun run => run.world = worldAfter ctx.toolInvoker run.invocations world)
    ?_ recursionLimit rfl
  intro node run h
  have hentering : (run.entering node).world = worldAfter ctx.toolInvoker run.invocations world := h
  cases touched_runNode py
    { ctx with availableTools := allowedTools policy ctx.availableTools } node
      (run.entering node) with
  | kept hworld hinvocations => rw [hworld, hinvocations, hentering]; rfl
  | called call hworld hinvocations =>
    rw [hworld, hinvocations, hentering]
    exact (worldAfter_append ctx.toolInvoker run.invocations [call] world).symm

/-! ## The gateway -/

/-- What a call has left in the log of the gateway when its handler ran: one approval in the audit,
and then attempts on the audited payload, at most one more than the tool may be retried. The gates
were open as the call found the limiter, and the attempts began in the world that it found. -/
def HandledBehindGates (runtime : GatewayToolRuntime W L) (actor : AuthorizationContext)
    (conversationId : Uuid) (s : GatewayState W L) (call : String × Payload)
    (events : List GatewayEvent) : Prop :=
  handlerPayloads events ≠ [] →
    ∃ registration scopedPayload validated siteCode outcomes,
      Gates runtime.gateway call.1 call.2 actor s.limiter registration scopedPayload validated
        siteCode ∧
      Gateway.Executed registration actor.userId.str
        (some conversationId) validated s.world outcomes events ∧
      auditRecords events =
        [approvedRecord registration.definition actor.userId.str (some conversationId) validated] ∧
      handlerPayloads events = List.replicate outcomes.length validated ∧
      outcomes.length ≤ registration.definition.maxRetries + 1

theorem toolInvoker_handled (runtime : GatewayToolRuntime W L) (actor : AuthorizationContext)
    (conversationId : Uuid) (s : GatewayState W L) (call : String × Payload) :
    ∃ events, (toolInvoker runtime actor conversationId call.1 call.2 s).1.log = s.log ++ events ∧
      HandledBehindGates runtime actor conversationId s call events := by
  obtain ⟨events, hlog, hcalled⟩ :=
    invoke_run runtime.gateway call.1 call.2 actor (some conversationId) s
  refine ⟨events, hlog, ?_⟩
  intro h
  obtain ⟨registration, scopedPayload, validated, siteCode, outcomes, hgates, hexecuted⟩ :=
    hcalled h
  exact ⟨registration, scopedPayload, validated, siteCode, outcomes, hgates, hexecuted,
    hexecuted.auditRecords_eq, hexecuted.handlerPayloads_eq, hexecuted.attempts.length_le⟩

/-- The tools that a query of an actor may use, behind the gateway. -/
def GraphContext.behind (ctx : GraphContext B (GatewayState W L)) (runtime : GatewayToolRuntime W L)
    (modelJsonSchema : InputModel → Payload) (actor : AuthorizationContext)
    (conversationId : Uuid) : GraphContext B (GatewayState W L) :=
  { ctx with
    availableTools := runtime.listTools modelJsonSchema actor
    toolInvoker := Agent.toolInvoker runtime actor conversationId }

/-- The graph lets the call pass: the policy allows the tool, the runtime has listed it for the
actor, and the validator found that the call says what the query says. -/
structure PassesGraph (py : Interpreter) (runtime : GatewayToolRuntime W L)
    (modelJsonSchema : InputModel → Payload) (actor : AuthorizationContext)
    (policy : ToolCallPolicy) (query : String) (call : String × Payload) : Prop where
  allowed : call.1 ∈ policy.allowedToolNames
  vetted : ∃ descriptor ∈ runtime.listTools modelJsonSchema actor, descriptor.name = call.1 ∧
    ∃ result, validateToolCallSemantics py query descriptor call.2 = .ok result ∧
      result.allowed = true

/-- A call of a run, the state of the gateway that it finds, and what it has left in the log: the
graph let it pass, and the handler ran behind the gates of the gateway. -/
structure Guarded (py : Interpreter) (runtime : GatewayToolRuntime W L)
    (modelJsonSchema : InputModel → Payload) (actor : AuthorizationContext) (conversationId : Uuid)
    (policy : ToolCallPolicy) (query : String) (s : GatewayState W L) (call : String × Payload)
    (events : List GatewayEvent) : Prop extends
    PassesGraph py runtime modelJsonSchema actor policy query call where
  logged : (toolInvoker runtime actor conversationId call.1 call.2 s).1.log = s.log ++ events
  handled : HandledBehindGates runtime actor conversationId s call events

/-- Guarded calls one after another, each in the state that those before it have left. -/
inductive GuardedCalls (py : Interpreter) (runtime : GatewayToolRuntime W L)
    (modelJsonSchema : InputModel → Payload) (actor : AuthorizationContext) (conversationId : Uuid)
    (policy : ToolCallPolicy) (query : String) :
    GatewayState W L → List (String × Payload) → List (List GatewayEvent) → GatewayState W L →
      Prop where
  | nil (s : GatewayState W L) :
      GuardedCalls py runtime modelJsonSchema actor conversationId policy query s [] [] s
  | cons {s s' : GatewayState W L} {call : String × Payload} {events : List GatewayEvent}
      {calls : List (String × Payload)} {blocks : List (List GatewayEvent)}
      (hcall : Guarded py runtime modelJsonSchema actor conversationId policy query s call events)
      (hrest : GuardedCalls py runtime modelJsonSchema actor conversationId policy query
        (toolInvoker runtime actor conversationId call.1 call.2 s).1 calls blocks s') :
      GuardedCalls py runtime modelJsonSchema actor conversationId policy query s (call :: calls)
        (events :: blocks) s'

section

variable {py : Interpreter} {runtime : GatewayToolRuntime W L}
  {modelJsonSchema : InputModel → Payload}
  {actor : AuthorizationContext} {conversationId : Uuid} {policy : ToolCallPolicy} {query : String}
  {s s' : GatewayState W L} {calls : List (String × Payload)} {blocks : List (List GatewayEvent)}

variable (conversationId) in
/-- Calls that the graph lets pass are guarded. -/
theorem exists_guardedCalls
    (h : ∀ call ∈ calls, PassesGraph py runtime modelJsonSchema actor policy query call)
    (s : GatewayState W L) :
    ∃ blocks,
      GuardedCalls py runtime modelJsonSchema actor conversationId policy query s calls blocks
      (worldAfter (toolInvoker runtime actor conversationId) calls s) := by
  induction calls generalizing s with
  | nil => exact ⟨[], .nil s⟩
  | cons call rest ih =>
    obtain ⟨events, hlogged, hhandled⟩ := toolInvoker_handled runtime actor conversationId s call
    obtain ⟨blocks, hblocks⟩ := ih (fun other hother => h other (List.mem_cons_of_mem _ hother))
      (toolInvoker runtime actor conversationId call.1 call.2 s).1
    exact ⟨events :: blocks, .cons ⟨h call List.mem_cons_self, hlogged, hhandled⟩ hblocks⟩

/-- The log of guarded calls is the log before them and a block for each. -/
theorem GuardedCalls.log_eq
    (h : GuardedCalls py runtime modelJsonSchema actor conversationId policy query s calls
      blocks s') :
    s'.log = s.log ++ blocks.flatten := by
  induction h with
  | nil s => exact (List.append_nil _).symm
  | cons hcall _ ih => rw [ih, hcall.logged, List.flatten_cons, List.append_assoc]

/-- How many calls of handlers some guarded calls have made at most. -/
theorem GuardedCalls.length_le {retries : Nat}
    (hretries : ∀ toolName registration, runtime.registry.get toolName = some registration →
      registration.definition.maxRetries ≤ retries)
    (h : GuardedCalls py runtime modelJsonSchema actor conversationId policy query s calls
      blocks s') :
    (handlerPayloads blocks.flatten).length ≤ calls.length * (retries + 1) := by
  induction h with
  | nil s => simp [handlerPayloads]
  | @cons s s' call events calls blocks hcall _ ih =>
    have hone : (handlerPayloads events).length ≤ retries + 1 := by
      by_cases hnone : handlerPayloads events = []
      · simp [hnone]
      · obtain ⟨registration, _, _, _, outcomes, hgates, -, -, hpayloads, hlength⟩ :=
          hcall.handled hnone
        have hmax := hretries call.1 registration hgates.registered
        rw [hpayloads, List.length_replicate]
        omega
    rw [List.flatten_cons, handlerPayloads_append, List.length_append, List.length_cons,
      Nat.succ_mul]
    omega

end

/-- A call that a run with the allowed tools has vetted passes the graph. -/
theorem Vetted.passesGraph {py : Interpreter} {runtime : GatewayToolRuntime W L}
    {modelJsonSchema : InputModel → Payload} {actor : AuthorizationContext}
    {policy : ToolCallPolicy} {ctx : GraphContext B (GatewayState W L)} {call : String × Payload}
    (h : Vetted py { ctx with
      availableTools := allowedTools policy (runtime.listTools modelJsonSchema actor) } call) :
    PassesGraph py runtime modelJsonSchema actor policy ctx.userQuery call := by
  obtain ⟨descriptor, result, hfind, hvalidated, hsays⟩ := h
  have hmem : descriptor ∈ allowedTools policy (runtime.listTools modelJsonSchema actor) :=
    List.mem_of_find?_eq_some hfind
  have hname : descriptor.name = call.1 := by simpa using List.find?_some hfind
  obtain ⟨hlisted, hallowed⟩ := List.mem_filter.mp hmem
  refine ⟨?_, descriptor, hlisted, hname, result, hvalidated, hsays⟩
  rw [← hname]
  simpa using hallowed

/-- At its end a run is within its budget. -/
theorem ainvoke_bounded (py : Interpreter) (ctx : GraphContext B W) {policy : ToolCallPolicy}
    (htotal : 0 ≤ policy.maxTotalCalls) (hperTool : 0 ≤ policy.maxCallsPerTool)
    (checkpoint : Checkpoint) (maxToolCalls : Int) (allowToolCalls : Bool) (brain : B) (world : W)
    (recursionLimit : Nat) :
    Bounded { ctx with availableTools := allowedTools policy ctx.availableTools }
      (effectiveMaxToolCalls policy maxToolCalls allowToolCalls) policy.maxCallsPerTool
      (ainvoke py ctx policy checkpoint maxToolCalls allowToolCalls brain world
        recursionLimit).run := by
  have hrun := runFor_budget py
    { ctx with availableTools := allowedTools policy ctx.availableTools } recursionLimit
    (before_initialRun htotal hperTool checkpoint maxToolCalls allowToolCalls brain world)
  unfold ainvoke
  revert hrun
  cases runFor py { ctx with availableTools := allowedTools policy ctx.availableTools }
      recursionLimit .classifyIntent
      (initialRun checkpoint policy maxToolCalls allowToolCalls brain world) with
  | finished run => exact And.left
  | raised e run => exact And.left
  | before node run => exact fun h => h.1.bounded.1

/-- Whatever the brain does, every call of a handler in a run stands behind the policy, the listing
and the validator of the graph and behind the gates of the gateway, and there are no more than the
budget and the retries allow. -/
theorem ainvoke_guarded (py : Interpreter) (runtime : GatewayToolRuntime W L)
    (modelJsonSchema : InputModel → Payload) (actor : AuthorizationContext) (conversationId : Uuid)
    (ctx : GraphContext B (GatewayState W L)) (policy : ToolCallPolicy)
    (htotal : 0 ≤ policy.maxTotalCalls) (hperTool : 0 ≤ policy.maxCallsPerTool)
    (checkpoint : Checkpoint) (maxToolCalls : Int) (allowToolCalls : Bool) (brain : B)
    (s : GatewayState W L) (recursionLimit retries : Nat)
    (hretries : ∀ toolName registration, runtime.registry.get toolName = some registration →
      registration.definition.maxRetries ≤ retries) :
    let run :=
      (ainvoke py (ctx.behind runtime modelJsonSchema actor conversationId) policy checkpoint
        maxToolCalls allowToolCalls brain s recursionLimit).run
    ∃ blocks : List (List GatewayEvent), GuardedCalls py runtime modelJsonSchema actor
        conversationId policy ctx.userQuery s run.invocations blocks run.world ∧
      ((handlerPayloads blocks.flatten).length : Int) ≤
        effectiveMaxToolCalls policy maxToolCalls allowToolCalls * (retries + 1) := by
  intro run
  have hworld : run.world =
      worldAfter (toolInvoker runtime actor conversationId) run.invocations s :=
    ainvoke_world py (ctx.behind runtime modelJsonSchema actor conversationId) policy checkpoint
      maxToolCalls allowToolCalls brain s recursionLimit
  have hbounded :=
    ainvoke_bounded py (ctx.behind runtime modelJsonSchema actor conversationId) htotal hperTool
      checkpoint maxToolCalls allowToolCalls brain s recursionLimit
  have hvetted : ∀ call ∈ run.invocations, Vetted py
      { (ctx.behind runtime modelJsonSchema actor conversationId) with
        availableTools := allowedTools policy (runtime.listTools modelJsonSchema actor) } call :=
    invocations_vetted py _ recursionLimit .classifyIntent _
      (fun _ hcall => absurd hcall List.not_mem_nil)
  obtain ⟨blocks, hguarded⟩ :=
    exists_guardedCalls conversationId (fun call hcall => (hvetted call hcall).passesGraph) s
  rw [← hworld] at hguarded
  refine ⟨blocks, hguarded, ?_⟩
  have hle : ((handlerPayloads blocks.flatten).length : Int) ≤
      (run.invocations.length : Int) * (retries + 1) := by
    exact_mod_cast hguarded.length_le hretries
  exact hle.trans (mul_le_mul_of_nonneg_right hbounded.length_le (by positivity))

end HotAirBalloon.Agent
