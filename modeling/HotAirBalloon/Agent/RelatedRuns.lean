import HotAirBalloon.Agent.GuardedRuns

/-!
# Runs over two databases

The graph shows the brain, the planner and the composer what the invoker has returned, and nothing
else of the world. So an invoker that cannot tell two worlds apart gives the same run over both
(`ainvoke_elsewhere`).

The gateway is such an invoker where it only reads: for an actor without global scope the read tools
cannot tell databases apart that agree on the sites of the actor, and a write tool that the policy
stops never comes to its handler. A whole run of the agent, with the decisions, the audit and the
answer, is then the same over both databases, and leaves each as it was (`ainvoke_siteBlind`).
-/

namespace HotAirBalloon.Agent

open Python Gateway Kernel User Operations

/-! ## Invokers that cannot tell worlds apart -/

section

variable {B W : Type} {S : W → W → Prop}

/-- Related worlds give every call the same outcome, and stay related. -/
def InvokerBlind (S : W → W → Prop) (invoker : ToolInvoker W) : Prop :=
  ∀ toolName payload world world', S world world' →
    (invoker toolName payload world).2 = (invoker toolName payload world').2 ∧
      S (invoker toolName payload world).1 (invoker toolName payload world').1

/-- Two runs that differ in the world only, by related worlds. -/
structure Elsewhere (S : W → W → Prop) (run run' : RunState B W) : Prop where
  same : run' = { run with world := run'.world }
  world : S run.world run'.world

/-- Two visits with the same result that leave the same run over related worlds. -/
structure VisitsElsewhere (S : W → W → Prop) (visited visited' : Visit B W) : Prop where
  result : visited.2 = visited'.2
  left : Elsewhere S visited.1 visited'.1

section

variable {py : Interpreter} {ctx : GraphContext B W} {run : RunState B W} {world : W}

theorem classifyIntent_elsewhere (h : S run.world world) :
    VisitsElsewhere S (classifyIntent ctx run)
      (classifyIntent ctx { run with world := world }) := by
  have hview : agentState ctx { run with world := world } ctx.availableTools =
      agentState ctx run ctx.availableTools := rfl
  unfold classifyIntent
  rw [hview]
  rcases ctx.brain.classifyIntent (agentState ctx run ctx.availableTools) run.brain with
    ⟨brain, e | intent⟩
  · exact ⟨rfl, rfl, h⟩
  · exact ⟨rfl, rfl, h⟩

theorem planResolved_elsewhere (h : S run.world world) (resolution : IntentResolution) :
    VisitsElsewhere S (planResolved ctx run resolution)
      (planResolved ctx { run with world := world } resolution) := by
  have hcallable : callableTools ctx { run with world := world } = callableTools ctx run := rfl
  unfold planResolved
  rw [hcallable]
  dsimp only
  split
  · exact ⟨rfl, rfl, h⟩
  · split
    · exact ⟨rfl, rfl, h⟩
    · exact ⟨rfl, rfl, h⟩

theorem planByBrain_elsewhere (h : S run.world world) :
    VisitsElsewhere S (planByBrain ctx run) (planByBrain ctx { run with world := world }) := by
  have hcallable : callableTools ctx { run with world := world } = callableTools ctx run := rfl
  have hview : agentState ctx { run with world := world } (callableTools ctx run) =
      agentState ctx run (callableTools ctx run) := rfl
  unfold planByBrain
  rw [hcallable]
  dsimp only
  rw [hview]
  split
  · exact ⟨rfl, rfl, h⟩
  · rcases ctx.brain.planAction (agentState ctx run (callableTools ctx run)) run.brain with
      ⟨brain, e | planned⟩
    · exact ⟨rfl, rfl, h⟩
    · exact ⟨rfl, rfl, h⟩

theorem planAction_elsewhere (h : S run.world world) :
    VisitsElsewhere S (planAction py ctx run) (planAction py ctx { run with world := world }) := by
  unfold planAction
  split
  · exact ⟨rfl, rfl, h⟩
  · exact planResolved_elsewhere h _
  · exact planByBrain_elsewhere h

theorem callTool_elsewhere (hblind : InvokerBlind S ctx.toolInvoker) (run : RunState B W)
    (h : S run.world world) (toolName : String) (payload : Payload) :
    VisitsElsewhere S (callTool ctx run toolName payload)
      (callTool ctx { run with world := world } toolName payload) := by
  obtain ⟨houtcome, hworld⟩ := hblind toolName payload _ _ h
  unfold callTool
  dsimp only
  rw [← houtcome]
  cases (ctx.toolInvoker toolName payload run.world).2 with
  | error e => exact ⟨rfl, rfl, hworld⟩
  | ok toolCall =>
    dsimp only
    split
    · exact ⟨rfl, rfl, hworld⟩
    · exact ⟨rfl, rfl, hworld⟩

theorem invokeTool_elsewhere (hblind : InvokerBlind S ctx.toolInvoker) (h : S run.world world) :
    VisitsElsewhere S (invokeTool py ctx run) (invokeTool py ctx { run with world := world }) := by
  unfold invokeTool
  dsimp only
  split
  · split
    · exact ⟨rfl, rfl, h⟩
    · split
      · exact ⟨rfl, rfl, h⟩
      · exact callTool_elsewhere hblind ((run.recordDecision _).recordDecision _) h _ _
  · exact ⟨rfl, rfl, h⟩

theorem observeResult_elsewhere (h : S run.world world) :
    VisitsElsewhere S (observeResult run) (observeResult { run with world := world }) := by
  unfold observeResult
  dsimp only
  split
  · exact ⟨rfl, rfl, h⟩
  · split
    · exact ⟨rfl, rfl, h⟩
    · exact ⟨rfl, rfl, h⟩

theorem respond_elsewhere (h : S run.world world) :
    VisitsElsewhere S (respond ctx run) (respond ctx { run with world := world }) := by
  have hview : agentState ctx { run with world := world } ctx.availableTools =
      agentState ctx run ctx.availableTools := rfl
  unfold respond
  rw [hview]
  dsimp only
  split
  · exact ⟨rfl, rfl, h⟩
  · split
    · split
      · exact ⟨rfl, rfl, h⟩
      · exact ⟨rfl, rfl, h⟩
    · rcases ctx.brain.respond (agentState ctx run ctx.availableTools) run.brain
        with ⟨brain, e | answer⟩
      · exact ⟨rfl, rfl, h⟩
      · exact ⟨rfl, rfl, h⟩

/-- What a node does over a world it does over any related one. -/
theorem runNode_elsewhere (py : Interpreter) (hblind : InvokerBlind S ctx.toolInvoker) (node : Node)
    (run : RunState B W) (h : S run.world world) :
    VisitsElsewhere S (runNode py ctx node run)
      (runNode py ctx node { run with world := world }) := by
  cases node with
  | classifyIntent => exact classifyIntent_elsewhere h
  | planAction => exact planAction_elsewhere h
  | toolCall => exact invokeTool_elsewhere hblind h
  | observeResult => exact observeResult_elsewhere h
  | decideNextStep => exact ⟨rfl, rfl, h⟩
  | respond => exact respond_elsewhere h

end

/-- Two runs that end alike, over related worlds. -/
inductive EndsElsewhere (S : W → W → Prop) : Progress B W → Progress B W → Prop where
  | finished {run run' : RunState B W} (h : Elsewhere S run run') :
      EndsElsewhere S (.finished run) (.finished run')
  | raised {run run' : RunState B W} (e : PyError) (h : Elsewhere S run run') :
      EndsElsewhere S (.raised e run) (.raised e run')
  | before {run run' : RunState B W} (node : Node) (h : Elsewhere S run run') :
      EndsElsewhere S (.before node run) (.before node run')

theorem runFor_elsewhere (py : Interpreter) (ctx : GraphContext B W)
    (hblind : InvokerBlind S ctx.toolInvoker) (limit : Nat) (node : Node) {run run' : RunState B W}
    (h : Elsewhere S run run') :
    EndsElsewhere S (runFor py ctx limit node run) (runFor py ctx limit node run') := by
  induction limit generalizing node run run' with
  | zero => exact .before node h
  | succ limit ih =>
    obtain ⟨hsame, hworld⟩ := h
    have hstep := runNode_elsewhere py hblind node (run.entering node) hworld
    have hentering : run'.entering node = { run.entering node with world := run'.world } := by
      rw [hsame]
      rfl
    rw [runFor_succ, runFor_succ, hentering]
    revert hstep
    rcases runNode py ctx node (run.entering node) with ⟨left, r⟩
    rcases runNode py ctx node { run.entering node with world := run'.world } with ⟨right, r'⟩
    rintro ⟨rfl, hleft⟩
    rcases r with e | _ | next
    · exact .raised e hleft
    · exact .finished hleft
    · exact ih next hleft

/-- A blind invoker makes the same run over related worlds. -/
theorem ainvoke_elsewhere (py : Interpreter) (ctx : GraphContext B W)
    (hblind : InvokerBlind S ctx.toolInvoker) (policy : ToolCallPolicy) (checkpoint : Checkpoint)
    (maxToolCalls : Int) (allowToolCalls : Bool) (brain : B) {world world' : W} (h : S world world')
    (recursionLimit : Nat) :
    EndsElsewhere S
      (ainvoke py ctx policy checkpoint maxToolCalls allowToolCalls brain world recursionLimit)
      (ainvoke py ctx policy checkpoint maxToolCalls allowToolCalls brain world'
        recursionLimit) := by
  have hinitial : Elsewhere S
      (initialRun checkpoint policy maxToolCalls allowToolCalls brain world)
      (initialRun checkpoint policy maxToolCalls allowToolCalls brain world') := ⟨rfl, h⟩
  exact runFor_elsewhere py
    { ctx with availableTools := allowedTools policy ctx.availableTools } hblind
    recursionLimit .classifyIntent hinitial

end

/-! ## A gateway that only reads -/

section

variable {W L : Type}

/-- A call that is not approved is the same in every world. -/
theorem blind_executeApproved_of_blocked {R : W → W → Prop} {gateway : ToolGateway W L}
    {registration : AssistantToolRegistration W} {actor : String} {validated : Payload}
    (hblocked : ∀ reason, approval gateway registration.definition actor validated ≠
      .ok (.approved, reason)) (conversationId : Option Uuid) :
    Blind R (executeApproved gateway registration actor conversationId validated) := by
  unfold executeApproved
  refine lockstep_liftExcept_bind ?_
  rintro ⟨decision, reason⟩ happroval
  refine blind_bind (blind_emit _) (fun _ => ?_)
  refine lockstep_ite (fun _ => ?_) (fun hdecision => ?_)
  · exact blind_bind (blind_emit _) (fun _ => lockstep_pure _)
  · obtain rfl : decision = .approved := not_not.mp hdecision
    exact absurd happroval (hblocked reason)

/-- Behind the gates, an invocation is blind where its execution is. -/
theorem blind_invoke_of_executed {R : W → W → Prop} {gateway : ToolGateway W L} {toolName : String}
    {payload : Payload} {actor : AuthorizationContext} {conversationId : Option Uuid}
    (h : ∀ registration validated, gateway.registry.get toolName = some registration →
      Blind R (executeApproved gateway registration actor.userId.str conversationId validated)) :
    Blind R (gateway.invoke toolName payload actor conversationId) := by
  intro s t hst
  rw [exec_invoke, exec_invoke]
  cases hadmission : admission gateway toolName payload actor conversationId with
  | error refusal => exact ⟨rfl, hst.world, hst.limiter, by simp only [hst.log]⟩
  | ok admitted =>
    obtain ⟨registration, validated⟩ := admitted
    obtain ⟨hget, -⟩ := admission_eq_ok_iff.mp hadmission
    have hexecuted := h registration validated hget
    have hlimited : Blind R
        (limitedCall gateway registration actor.userId.str conversationId validated) := by
      unfold limitedCall
      refine blind_bind (blind_consumeRate gateway _ _) ?_
      intro verdict
      cases verdict with
      | none => exact hexecuted
      | some verdict =>
        obtain ⟨rateLimit, verdict⟩ := verdict
        refine lockstep_ite (fun _ => ?_) (fun _ => hexecuted)
        exact blind_bind (blind_emit _) (fun _ =>
          blind_bind (blind_emit _) (fun _ => lockstep_pure _))
    exact hlimited s t hst

end

variable {B L : Type} {pydantic : Pydantic}

/-- A runtime without permission to write: its tools are the read tools, and tools that the policy
stops. -/
structure ReadsOnly (py : Interpreter) (pydantic : Pydantic)
    (runtime : GatewayToolRuntime OperationsDb L) : Prop where
  writesOff : runtime.allowWriteTools = false
  registered : ∀ toolName registration, runtime.registry.get toolName = some registration →
    registration ∈ readTools py pydantic ∨ StoppedByPolicy registration.definition

/-- The one database here and the other there. -/
def Databases (db db' : OperationsDb) (world world' : OperationsDb) : Prop :=
  world = db ∧ world' = db'

/-- For an actor without global scope, a tool that only reads cannot tell databases apart that agree
on the sites of the actor. -/
theorem ReadsOnly.blind {py : Interpreter} {runtime : GatewayToolRuntime OperationsDb L}
    (h : ReadsOnly py pydantic runtime) {actor : AuthorizationContext}
    (hglobal : actor.globalScope = false)
    {db db' : OperationsDb} (hagree : Operations.Agree actor.siteCodes db db') (toolName : String)
    (payload : Payload) (conversationId : Option Uuid) :
    Blind (Databases db db') (runtime.gateway.invoke toolName payload actor conversationId) := by
  cases hget : runtime.registry.get toolName with
  | none =>
    refine blind_invoke_of_executed ?_
    intro registration _ hregistered
    cases hget.symm.trans hregistered
  | some registration =>
    rcases h.registered toolName registration hget with hread | hstopped
    · obtain ⟨output, hscoped⟩ := readTools_siteScoped hread
      refine blind_invoke runtime.gateway toolName payload actor conversationId ?_
      intro registration' scopedPayload validated siteCode hget' hscope hvalid hsite hpermitted
      obtain rfl : registration = registration' := Option.some.inj (hget.symm.trans hget')
      obtain ⟨code, hcode, hhandles⟩ :=
        hscoped.handlesSite hglobal hscope hvalid hsite hpermitted
      rintro world world' ⟨rfl, rfl⟩
      exact ⟨hhandles.congr _ _ _ hcode hagree, hhandles.reads _, hhandles.reads _⟩
    · refine blind_invoke_of_executed ?_
      intro registration' validated hget'
      obtain rfl : registration = registration' := Option.some.inj (hget.symm.trans hget')
      apply blind_executeApproved_of_blocked
      intro reason happroved
      have hgateway :
          runtime.gateway = buildToolGateway runtime.registry false runtime.rateLimiter := by
        unfold GatewayToolRuntime.gateway
        rw [h.writesOff]
      rw [hgateway] at happroved
      obtain rfl := reason_of_approved happroved
      exact (approval_buildToolGateway_iff _ _ _ _ _).mp happroved hstopped

/-- The end of a run, with another database under it. -/
def Progress.withDatabase (db : OperationsDb) :
    Progress B (GatewayState OperationsDb L) → Progress B (GatewayState OperationsDb L)
  | finished run => finished { run with world := { run.world with world := db } }
  | raised e run => raised e { run with world := { run.world with world := db } }
  | before node run => before node { run with world := { run.world with world := db } }

theorem Elsewhere.withDatabase {run run' : RunState B (GatewayState OperationsDb L)}
    {db db' : OperationsDb} (h : Elsewhere (Indistinct (Databases db db')) run run') :
    run' = { run with world := { run.world with world := db' } } := by
  obtain ⟨hsame, ⟨-, hdb'⟩, hlimiter, hlog⟩ := h
  have hworld : run'.world = { run.world with world := db' } := by
    rcases hrun : run'.world with ⟨world, limiter, log⟩
    rw [hrun] at hdb' hlimiter hlog
    simp only [hlimiter, hlog]
    exact congrArg (GatewayState.mk · limiter log) hdb'
  rw [hsame, hworld]

/-- For an actor without global scope a run of the agent is the same over every database that agrees
with this one on the sites of the actor: the decisions, the calls, the audit, the brain and the
answer. It leaves the database as it was. -/
theorem ainvoke_siteBlind (py : Interpreter) {py' : Interpreter}
    {runtime : GatewayToolRuntime OperationsDb L}
    (hreads : ReadsOnly py' pydantic runtime) {actor : AuthorizationContext}
    (hglobal : actor.globalScope = false) {conversationId : Uuid}
    (ctx : GraphContext B (GatewayState OperationsDb L))
    (hinvoker : ctx.toolInvoker = toolInvoker runtime actor conversationId)
    (policy : ToolCallPolicy)
    (checkpoint : Checkpoint) (maxToolCalls : Int) (allowToolCalls : Bool) (brain : B) (limiter : L)
    (log : List GatewayEvent) (recursionLimit : Nat) {db db' : OperationsDb}
    (hagree : Operations.Agree actor.siteCodes db db') :
    let run := fun database => ainvoke py ctx policy checkpoint maxToolCalls allowToolCalls brain
      ⟨database, limiter, log⟩ recursionLimit
    run db' = (run db).withDatabase db' ∧ (run db).run.world.world = db := by
  intro run
  have hblind : InvokerBlind (Indistinct (Databases db db')) ctx.toolInvoker := by
    rw [hinvoker]
    exact fun toolName payload s t hst =>
      hreads.blind hglobal hagree toolName payload (some conversationId) s t hst
  have hstates : Indistinct (Databases db db') (⟨db, limiter, log⟩ : GatewayState OperationsDb L)
      ⟨db', limiter, log⟩ := ⟨⟨rfl, rfl⟩, rfl, rfl⟩
  have hends : EndsElsewhere (Indistinct (Databases db db')) (run db) (run db') :=
    ainvoke_elsewhere py _ hblind policy checkpoint maxToolCalls allowToolCalls brain hstates
      recursionLimit
  revert hends
  generalize run db = result
  generalize run db' = result'
  intro hends
  cases hends with
  | finished h => exact ⟨congrArg _ h.withDatabase, h.world.world.1⟩
  | raised e h => exact ⟨congrArg _ h.withDatabase, h.world.world.1⟩
  | before node h => exact ⟨congrArg _ h.withDatabase, h.world.world.1⟩

end HotAirBalloon.Agent
