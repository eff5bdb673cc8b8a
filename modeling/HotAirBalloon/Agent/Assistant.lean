import HotAirBalloon.Agent.FollowUps
import HotAirBalloon.Agent.RelatedRuns
import HotAirBalloon.Context.Assembler

/-!
# The assistant

What the ports of a query stand for: the context assembler, `GatewayToolRuntime` and
`LangGraphAgentOrchestrator` with its checkpoints. The providers of the context, the brain and the
handlers of the tools are any at all, and so is the store of the conversations.

Two facts about a run of the graph are facts about queries one after another, by any users: every
call of a handler stands behind the graph's checks and the gateway's for the user who asked
(`queries_guarded`), and nothing that users get tells databases apart that agree on their sites
(`queries_siteBlind`).
-/

namespace HotAirBalloon.Agent

open Python Library Gateway Kernel Evidence Memory User Context Operations

/-! ## Threads -/

/-- `uuid.bytes`: the number, in sixteen bytes, the highest first. -/
def uuidBytes (u : Uuid) : ByteArray :=
  ⟨((List.range 16).map fun i => UInt8.ofNat (u.int.val / 256 ^ (15 - i))).toArray⟩

/-- `derive_thread_id`, with `sha256(…).hexdigest()`. -/
def deriveThreadId (sha256Hex : ByteArray → String) (ownerUserId conversationId : Uuid) : String :=
  "assistant:v1:" ++ sha256Hex
    ("erp-assistant:langgraph-thread:v1\x00".toUTF8 ++ uuidBytes ownerUserId ++
      uuidBytes conversationId)

/-! ## The components -/

variable {B C W L T : Type}

/-- The components of the assistant; the providers of the context have a state of their own. -/
structure Assistant (B C W L : Type) where
  py : Interpreter
  providers : Uuid → ContextRequest → List ConversationEvidenceSnapshot → C →
    List (Except PyError (List ContextBlock)) × C
  assembler : DefaultContextAssembler
  runtime : GatewayToolRuntime W L
  modelJsonSchema : InputModel → Payload
  brain : AgentBrain B
  modelName : String
  responseComposer : FinalResponseComposer
  sha256Hex : ByteArray → String
  /-- Whether the graph is compiled with a checkpointer. -/
  hasCheckpointer : Bool := true
  recursionLimit : Nat
  /-- What a run raises that reaches the limit. -/
  recursionError : PyError

/-- `_workflow` is there between `start` and `stop`. -/
structure AssistantState (B C W L : Type) where
  context : C
  gateway : GatewayState W L
  brain : B
  threads : String → Checkpoint := fun _ => {}
  hasWorkflow : Bool := true

namespace Assistant

variable (assistant : Assistant B C W L)

/-- The context of a run. -/
def graphContext (request : AgentRequest) : GraphContext B (GatewayState W L) where
  brain := assistant.brain
  availableTools := request.availableTools
  toolInvoker := toolInvoker assistant.runtime request.authorizationContext request.conversationId
  contextPrompt := request.context.render
  userQuery := request.userQuery
  composeAnswer := assistant.responseComposer.compose
  conversationId := some request.conversationId

def threadId (request : AgentRequest) : String :=
  deriveThreadId assistant.sha256Hex request.authorizationContext.userId request.conversationId

/-- The run of the graph that a request starts. -/
def progress (request : AgentRequest) (s : AssistantState B C W L) :
    Progress B (GatewayState W L) :=
  ainvoke assistant.py (assistant.graphContext request) request.toolPolicy
    (if assistant.hasCheckpointer then s.threads (assistant.threadId request) else {})
    request.maxToolCalls request.allowToolCalls s.brain s.gateway assistant.recursionLimit

/-- What `run` makes of the run of the graph. -/
def outcome : Progress B (GatewayState W L) → Except PyError AgentRunResult
  | .finished run => .ok (agentRunResult assistant.modelName run.state)
  | .raised e _ => .error e
  | .before _ _ => .error assistant.recursionError

/-- What a run of the graph leaves; the checkpointer keeps its channels under the thread. -/
def leaving (thread : String) (run : RunState B (GatewayState W L)) (s : AssistantState B C W L) :
    AssistantState B C W L :=
  { s with
    gateway := run.world
    brain := run.brain
    threads :=
      if assistant.hasCheckpointer then
        Function.update s.threads thread ⟨run.state.messages, run.state.workingSet⟩
      else s.threads }

/-- `LangGraphAgentOrchestrator.run`. -/
def run (request : AgentRequest) (s : AssistantState B C W L) :
    Except PyError AgentRunResult × AssistantState B C W L :=
  if s.hasWorkflow then
    let progress := assistant.progress request s
    (assistant.outcome progress, assistant.leaving (assistant.threadId request) progress.run s)
  else (.error (.runtimeError "LangGraphAgentOrchestrator has not been started"), s)

/-- The components behind the ports of a query. -/
def ports : AgentPorts (AssistantState B C W L)
  | .assemble conversationId request recentEvidence, s =>
    let (results, context) := assistant.providers conversationId request recentEvidence s.context
    (assistant.assembler.assemble results, { s with context := context })
  | .listTools authorizationContext, s =>
    (.ok (assistant.runtime.listTools assistant.modelJsonSchema authorizationContext), s)
  | .run request, s => assistant.run request s

end Assistant

/-! ## The run of a query -/

/-- The request of a query, with the tools that are listed for its user. -/
def agentRequest (assistant : Assistant B C W L) (useCase : OrchestrateAssistantQuery)
    (query : AssistantQueryCommand × QueryDraws) (context : AssembledContext) : AgentRequest where
  conversationId := (useCase.exchange query.1 query.2).conversationId
  authorizationContext := query.1.authorizationContext
  userQuery := query.1.query
  availableTools :=
    assistant.runtime.listTools assistant.modelJsonSchema query.1.authorizationContext
  context := context
  toolPolicy := useCase.toolPolicy
  maxToolCalls := query.1.maxToolCalls
  allowToolCalls := query.1.allowToolCalls

/-- What a query has done to the assistant, and the calls of its ports: nothing but to its
providers, or one run besides, which is among the calls. -/
inductive QueryRan (assistant : Assistant B C W L) (useCase : OrchestrateAssistantQuery)
    (query : AssistantQueryCommand × QueryDraws) (s : AssistantState B C W L)
    (calls : List AgentCall) : AssistantState B C W L → Prop where
  | quiet (c : C) : QueryRan assistant useCase query s calls { s with context := c }
  | ran (c : C) (context : AssembledContext)
      (hcall : ⟨.run (agentRequest assistant useCase query context),
        (assistant.run (agentRequest assistant useCase query context)
          { s with context := c }).1⟩ ∈ calls) :
      QueryRan assistant useCase query s calls
        (assistant.run (agentRequest assistant useCase query context) { s with context := c }).2

section

variable {assistant : Assistant B C W L} {useCase : OrchestrateAssistantQuery}
  {query : AssistantQueryCommand × QueryDraws}
  {carry : (op : StoreOp) → T → Except PyError op.Reply → T → Prop}
  {w w' : T × AssistantState B C W L × List AgentCall} {α : Type} {p : Query α}

/-- What is carried out beside some ports is carried out beside the recorded ones. -/
theorem carried_recorded {A : Type} {agents : AgentPorts A} {w w' : T × A} {r : Except PyError α}
    (h : Carried (Beside carry agents) p w r w') (calls : List AgentCall) :
    ∃ more, Carried (Beside carry (Port.recorded agents)) p (w.1, w.2, calls) r
      (w'.1, w'.2, calls ++ more) := by
  induction h generalizing calls with
  | done r w => exact ⟨[], by rw [List.append_nil]; exact .done r _⟩
  | @call op next w w₁ w' reply r hcarry hrest ih =>
    cases op with
    | store op =>
      have hkept : Beside carry (Port.recorded agents) (.store op) (w.1, w.2, calls) reply
          (w₁.1, w₁.2, calls) := ⟨hcarry.1, congrArg (fun a => (a, calls)) hcarry.2⟩
      obtain ⟨more, hmore⟩ := ih calls
      exact ⟨more, .call hkept hmore⟩
    | agent op =>
      have hanswer :
          Port.recorded agents op (w.2, calls) = (reply, w₁.2, calls ++ [⟨op, reply⟩]) := by
        have hreply : agents op w.2 = (reply, w₁.2) := hcarry.1
        unfold Port.recorded
        rw [hreply]
        rfl
      have hlogged : Beside carry (Port.recorded agents) (.agent op) (w.1, w.2, calls) reply
          (w₁.1, w₁.2, calls ++ [⟨op, reply⟩]) := ⟨hanswer, hcarry.2⟩
      obtain ⟨more, hmore⟩ := ih (calls ++ [⟨op, reply⟩])
      rw [List.append_assoc] at hmore
      exact ⟨⟨op, reply⟩ :: more, .call hlogged hmore⟩

/-- An operation that starts no run. -/
def QueryOp.Quiet : QueryOp → Prop
  | agent (.run _) => False
  | _ => True

/-- A program that starts no run changes nothing but the state of the providers. -/
theorem context_of_quiet {r : Except PyError α} (hp : p.Calls QueryOp.Quiet)
    (h : Carried (Beside carry assistant.ports.recorded) p w r w') :
    ∃ c more, w'.2 = ({ w.2.1 with context := c }, w.2.2 ++ more) := by
  refine Carried.keeps (I := fun w' =>
    ∃ c more, w'.2 = ({ w.2.1 with context := c }, w.2.2 ++ more))
    ?_ hp ⟨w.2.1.context, [], by rw [List.append_nil]⟩ h
  rintro op w₁ reply w₂ hquiet ⟨c, more, hsame⟩ hcarry
  cases op with
  | store op => exact ⟨c, more, hcarry.2.trans hsame⟩
  | agent op =>
    have hstate : (assistant.ports.recorded op w₁.2).2 = w₂.2 := congrArg Prod.snd hcarry.1
    rw [← hstate, hsame]
    cases op with
    | assemble conversationId request recentEvidence =>
      exact ⟨_, _, congrArg _ (List.append_assoc _ _ _)⟩
    | listTools authorizationContext => exact ⟨c, _, congrArg _ (List.append_assoc _ _ _)⟩
    | run request => cases hquiet

/-- The program does to the assistant what a query may do. -/
def RunsOnce (carry : (op : StoreOp) → T → Except PyError op.Reply → T → Prop)
    (assistant : Assistant B C W L) (useCase : OrchestrateAssistantQuery)
    (query : AssistantQueryCommand × QueryDraws) {α : Type} (p : Query α) : Prop :=
  ∀ w r w', Carried (Beside carry assistant.ports.recorded) p w r w' →
    ∃ calls, w'.2.2 = w.2.2 ++ calls ∧ QueryRan assistant useCase query w.2.1 calls w'.2.1

theorem runsOnce_of_quiet (hp : p.Calls QueryOp.Quiet) :
    RunsOnce carry assistant useCase query p := by
  intro w r w' h
  obtain ⟨c, more, hsame⟩ := context_of_quiet hp h
  rw [hsame]
  exact ⟨more, rfl, .quiet c⟩

/-- More calls before those of a query. -/
theorem QueryRan.prepend {s s' : AssistantState B C W L} {calls : List AgentCall} {c : C}
    (h : QueryRan assistant useCase query { s with context := c } calls s')
    (before : List AgentCall) : QueryRan assistant useCase query s (before ++ calls) s' := by
  cases h with
  | quiet c => exact .quiet c
  | ran c context hcall => exact .ran c context (List.mem_append_right _ hcall)

/-- Operations that start no run come before. -/
theorem runsOnce_bind {β : Type} {f : α → Query β} (hp : p.Calls QueryOp.Quiet)
    (hf : ∀ a, RunsOnce carry assistant useCase query (f a)) :
    RunsOnce carry assistant useCase query (p >>= f) := by
  intro w r w' h
  rcases h.bind_cases with ⟨a, w₁, hfirst, hrest⟩ | ⟨e, hfirst, -⟩
  · obtain ⟨calls, hcalls, hran⟩ := hf a _ _ _ hrest
    obtain ⟨c, more, hsame⟩ := context_of_quiet hp hfirst
    rw [hsame] at hcalls hran
    exact ⟨more ++ calls, by rw [hcalls, List.append_assoc], hran.prepend more⟩
  · exact runsOnce_of_quiet hp _ _ _ hfirst

theorem runsOnce_runAgent (context : AssembledContext) :
    RunsOnce carry assistant useCase query
      (useCase.runAgent query.1 (useCase.exchange query.1 query.2) context) := by
  intro w r w' h
  unfold OrchestrateAssistantQuery.runAgent at h
  rcases h.bind_cases with ⟨tools, w₁, hlist, hrun⟩ | ⟨e, hlist, -⟩
  · obtain ⟨htools, hlisted⟩ := Prod.mk.inj hlist.of_perform.1
    obtain rfl := Except.ok.inj htools
    have hran :
        (assistant.ports.recorded (.run (agentRequest assistant useCase query context)) w₁.2).2 =
        w'.2 := congrArg Prod.snd hrun.of_perform.1
    rw [← hran, ← hlisted]
    exact ⟨_, List.append_assoc _ _ _,
      .ran w.2.1.context context (List.mem_append_right _ (List.mem_singleton_self _))⟩
  · obtain ⟨-, hlisted⟩ := Prod.mk.inj hlist.of_perform.1
    rw [← hlisted]
    exact ⟨_, rfl, .quiet w.2.1.context⟩

/-- After a run a query only asks the store. -/
theorem runsOnce_attempt_bind {β : Type} {f : Except PyError α → Query β}
    (hp : RunsOnce carry assistant useCase query p)
    (hf : ∀ r, (f r).Calls (fun op => ∃ store, op = .store store)) :
    RunsOnce carry assistant useCase query (p.attempt >>= f) := by
  intro w r w' h
  rcases h.bind_cases with ⟨result, w₁, hfirst, hrest⟩ | ⟨e, hfirst, -⟩
  · obtain ⟨_, -, hcarried⟩ := hfirst.of_attempt
    have hsame : w'.2 = w₁.2 := by
      refine Carried.keeps (I := fun w' => w'.2 = w₁.2) ?_ (hf result) rfl hrest
      rintro _ w₂ reply w₃ ⟨op, rfl⟩ hkept hcarry
      exact hcarry.2.trans hkept
    rw [hsame]
    exact hp _ _ _ hcarried
  · obtain ⟨_, -, hcarried⟩ := hfirst.of_attempt
    exact hp _ _ _ hcarried

/-- A query starts one run at most, for the user who asks and with the tools listed for this
user. -/
theorem runsOnce_execute :
    RunsOnce carry assistant useCase query (useCase.execute query.1 query.2) := by
  unfold OrchestrateAssistantQuery.execute
  refine runsOnce_bind (.perform trivial) (fun _ => ?_)
  unfold OrchestrateAssistantQuery.answerClaimed
  refine runsOnce_bind (.perform trivial) (fun history => ?_)
  refine runsOnce_bind (.perform trivial) (fun recentEvidence => ?_)
  refine runsOnce_bind (.ofExcept _) (fun reference => ?_)
  cases reference with
  | some reference =>
    exact runsOnce_of_quiet
      (.bind (.ofExcept _) (fun answer => .bind (.perform trivial) (fun _ => .pure _)))
  | none =>
    refine runsOnce_bind (.perform trivial) (fun context => ?_)
    refine runsOnce_attempt_bind (runsOnce_runAgent context) ?_
    intro r
    cases r with
    | error e => exact .raise _
    | ok run => exact .bind (.perform ⟨_, rfl⟩) (fun _ => .pure _)

end

/-! ## Behind the gates -/

/-- What a query has left in the log of the gateway: guarded calls for the user who asked, from the
state that the query finds to the one that it leaves, and no more calls of handlers than its budget
and the retries allow. -/
structure QueryGuarded (assistant : Assistant B C W L) (useCase : OrchestrateAssistantQuery)
    (retries : Nat) (query : AssistantQueryCommand × QueryDraws) (s : GatewayState W L)
    (events : List GatewayEvent) (s' : GatewayState W L) : Prop where
  calls : ∃ calls blocks, events = blocks.flatten ∧
    GuardedCalls assistant.py assistant.runtime assistant.modelJsonSchema
      query.1.authorizationContext (useCase.exchange query.1 query.2).conversationId
      useCase.toolPolicy query.1.query s calls blocks s'
  handled : ((handlerPayloads events).length : Int) ≤
    effectiveMaxToolCalls useCase.toolPolicy query.1.maxToolCalls query.1.allowToolCalls *
      (retries + 1)

/-- The same for queries one after another. -/
inductive QueriesGuarded (assistant : Assistant B C W L) (useCase : OrchestrateAssistantQuery)
    (retries : Nat) : GatewayState W L → List (AssistantQueryCommand × QueryDraws) →
      List (List GatewayEvent) → GatewayState W L → Prop where
  | nil (s : GatewayState W L) : QueriesGuarded assistant useCase retries s [] [] s
  | cons {s s₁ s' : GatewayState W L} {query : AssistantQueryCommand × QueryDraws}
      {events : List GatewayEvent} {queries : List (AssistantQueryCommand × QueryDraws)}
      {blocks : List (List GatewayEvent)}
      (hquery : QueryGuarded assistant useCase retries query s events s₁)
      (hrest : QueriesGuarded assistant useCase retries s₁ queries blocks s') :
      QueriesGuarded assistant useCase retries s (query :: queries) (events :: blocks) s'

section

variable {assistant : Assistant B C W L} {useCase : OrchestrateAssistantQuery} {retries : Nat}
  {query : AssistantQueryCommand × QueryDraws}

/-- A query that has called no handler. -/
theorem queryGuarded_nil (htotal : 0 ≤ useCase.toolPolicy.maxTotalCalls) (s : GatewayState W L) :
    QueryGuarded assistant useCase retries query s [] s := by
  refine ⟨⟨[], [], rfl, .nil s⟩, ?_⟩
  exact mul_nonneg (effectiveMaxToolCalls_nonneg htotal _ _) (by positivity)

/-- The log grows by what the query has left in it. -/
theorem QueryGuarded.log_eq {s s' : GatewayState W L} {events : List GatewayEvent}
    (h : QueryGuarded assistant useCase retries query s events s') : s'.log = s.log ++ events := by
  obtain ⟨calls, blocks, rfl, hcalls⟩ := h.calls
  exact hcalls.log_eq

/-- Every handler that the run of a query has called stands behind the checks. -/
theorem run_guarded (htotal : 0 ≤ useCase.toolPolicy.maxTotalCalls)
    (hperTool : 0 ≤ useCase.toolPolicy.maxCallsPerTool)
    (hretries : ∀ toolName registration,
      assistant.runtime.registry.get toolName = some registration →
      registration.definition.maxRetries ≤ retries) (context : AssembledContext)
    (s : AssistantState B C W L) :
    ∃ events, QueryGuarded assistant useCase retries query s.gateway events
      (assistant.run (agentRequest assistant useCase query context) s).2.gateway := by
  unfold Assistant.run
  by_cases hworkflow : s.hasWorkflow = true
  · rw [if_pos hworkflow]
    obtain ⟨blocks, hguarded, hhandled⟩ := ainvoke_guarded assistant.py assistant.runtime
      assistant.modelJsonSchema query.1.authorizationContext
      (useCase.exchange query.1 query.2).conversationId
      (assistant.graphContext (agentRequest assistant useCase query context))
        useCase.toolPolicy htotal
      hperTool (if assistant.hasCheckpointer then
        s.threads (assistant.threadId (agentRequest assistant useCase query context)) else {})
      query.1.maxToolCalls query.1.allowToolCalls s.brain s.gateway assistant.recursionLimit retries
      hretries
    exact ⟨blocks.flatten, ⟨_, blocks, rfl, hguarded⟩, hhandled⟩
  · rw [if_neg hworkflow]
    exact ⟨[], queryGuarded_nil htotal s.gateway⟩

theorem QueryRan.guarded (htotal : 0 ≤ useCase.toolPolicy.maxTotalCalls)
    (hperTool : 0 ≤ useCase.toolPolicy.maxCallsPerTool)
    (hretries : ∀ toolName registration,
      assistant.runtime.registry.get toolName = some registration →
      registration.definition.maxRetries ≤ retries) {s s' : AssistantState B C W L}
    {calls : List AgentCall} (h : QueryRan assistant useCase query s calls s') :
    ∃ events, QueryGuarded assistant useCase retries query s.gateway events s'.gateway := by
  cases h with
  | quiet c => exact ⟨[], queryGuarded_nil htotal s.gateway⟩
  | ran c context hcall =>
    exact run_guarded htotal hperTool hretries context { s with context := c }

end

/-- Queries of any users on any conversations, one after another, whatever the store, the brain and
the providers of the context do: the log of the gateway has grown by one block for each query. Every
call of a handler in it stands behind the policy, the listing and the validator of the graph and
behind the gates of the gateway, in the state that the calls before it have left and for the user
who asked. -/
theorem queries_guarded (assistant : Assistant B C W L) (useCase : OrchestrateAssistantQuery)
    (htotal : 0 ≤ useCase.toolPolicy.maxTotalCalls)
    (hperTool : 0 ≤ useCase.toolPolicy.maxCallsPerTool) {retries : Nat}
    (hretries : ∀ toolName registration,
      assistant.runtime.registry.get toolName = some registration →
      registration.definition.maxRetries ≤ retries)
    (carry : (op : StoreOp) → T → Except PyError op.Reply → T → Prop)
    (queries : List (AssistantQueryCommand × QueryDraws)) {w w' : T × AssistantState B C W L}
    {results : List (Except PyError AssistantQueryResponse)}
    (h : CarriedEach (Beside carry assistant.ports) (useCase.programs queries) w results w') :
    ∃ blocks : List (List GatewayEvent), w'.2.gateway.log = w.2.gateway.log ++ blocks.flatten ∧
      QueriesGuarded assistant useCase retries w.2.gateway queries blocks w'.2.gateway := by
  induction queries generalizing w results with
  | nil =>
    cases h
    exact ⟨[], (List.append_nil _).symm, .nil _⟩
  | cons query rest ih =>
    cases h with
    | cons hfirst hrest =>
      obtain ⟨more, hrecorded⟩ := carried_recorded hfirst []
      obtain ⟨calls, -, hran⟩ := runsOnce_execute _ _ _ hrecorded
      obtain ⟨events, hguarded⟩ := hran.guarded htotal hperTool hretries
      obtain ⟨blocks, hblocks, hall⟩ := ih hrest
      refine ⟨events :: blocks, ?_, .cons hguarded hall⟩
      rw [hblocks, hguarded.log_eq, List.flatten_cons, List.append_assoc]

/-! ### A tool that fails once -/

/-- The in-memory store as a store that carries operations out. -/
def memoryStore (op : StoreOp) (memory : InMemoryConversationStore)
    (reply : Except PyError op.Reply)
    (memory' : InMemoryConversationStore) : Prop := inMemoryStore op memory = (reply, memory')

/-- Queries over the in-memory store. -/
theorem carriedEach_memory {A : Type} (agents : AgentPorts A)
    (programs : List (Query AssistantQueryResponse)) (s : InMemoryConversationStore × A) :
    CarriedEach (Beside memoryStore agents) programs s
      (Prog.answeredEach (inMemoryPorts agents) programs s).1
      (Prog.answeredEach (inMemoryPorts agents) programs s).2 := by
  have hstep :
      CarriesOut (Beside memoryStore agents) (inMemoryPorts agents) (fun _ s w => s = w) := by
    rintro op rest ⟨memory, a⟩ _ rfl
    cases op with
    | store op => exact ⟨((inMemoryStore op memory).2, a), ⟨rfl, rfl⟩, rfl⟩
    | agent op => exact ⟨(memory, (agents op a).2), ⟨rfl, rfl⟩, rfl⟩
  obtain ⟨_, hcarried, rfl⟩ := CarriedEach.of_answered hstep programs [] rfl
  exact hcarried

/-- An assistant whose only tool fails once and then answers. -/
def flakyAssistant : Assistant Unit Unit Nat Unit where
  py := .ascii
  providers := fun _ _ _ c => ([], c)
  assembler := { tokenCounter := fun _ => .ok 1 }
  runtime := ⟨flakyGateway.registry, false, unlimited⟩
  modelJsonSchema := fun _ => []
  brain := {
    classifyIntent := fun _ b => (b, .ok "work_orders")
    planAction := fun _ b => (b, .ok respondAction)
    respond := fun _ b => (b, .ok "") }
  modelName := "gpt"
  responseComposer := ⟨.ascii, id⟩
  sha256Hex := fun _ => "0"
  recursionLimit := 25
  recursionError := .runtimeError "recursion limit"

def flakyUseCase : OrchestrateAssistantQuery where
  toolPolicy := { allowedToolNames := ["get_work_orders"] }
  errorText := PyError.message

def flakyQueries : List (AssistantQueryCommand × QueryDraws) :=
  [({ query := "list work orders at PLANT-1"
      authorizationContext := flakyActor
      conversationId := some (Uuid.ofNat 5) }, (questionOf 1 1 1 "").2)]

/-- The ports of this assistant, with the tools in the order of the registry. -/
def flakyPorts : AgentPorts (AssistantState Unit Unit Nat Unit)
  | .listTools actor, s =>
    (.ok ((flakyGateway.registry.registrations.map Prod.snd).filterMap fun registration =>
      if !actor.can registration.definition.requiredPermission none then none
      else if !hasUsableSiteScope registration.definition actor then none
      else some (toolDescriptor (fun _ => []) registration.definition)), s)
  | op, s => flakyAssistant.ports op s

theorem flakyAssistant_ports : flakyAssistant.ports = flakyPorts := by
  funext op s
  cases op with
  | listTools actor =>
    unfold Assistant.ports flakyPorts GatewayToolRuntime.listTools ToolRegistry.listRegistrations
    simp only [flakyAssistant, flakyGateway, List.mergeSort_singleton]
  | assemble conversationId request recentEvidence => rfl
  | run request => rfl

/-- The state that these queries leave. -/
def flakyEnd : AssistantState Unit Unit Nat Unit :=
  (Prog.answeredEach (inMemoryPorts flakyPorts) (flakyUseCase.programs flakyQueries)
    ({ maxTurnsPerConversation := 20 }, ⟨(), ⟨1, (), []⟩, (), fun _ => {}, true⟩)).2.2

/-- The query calls its tool once and the handler twice. -/
theorem queries_guarded_flaky : (handlerPayloads flakyEnd.gateway.log).length = 2 ∧
    ∃ blocks : List (List GatewayEvent), flakyEnd.gateway.log = blocks.flatten ∧
      QueriesGuarded flakyAssistant flakyUseCase 1 ⟨1, (), []⟩ flakyQueries blocks
        flakyEnd.gateway := by
  have hretries : ∀ toolName registration, flakyAssistant.runtime.registry.get toolName =
      some registration → registration.definition.maxRetries ≤ 1 := by
    intro toolName registration hget
    have hmem := ToolRegistry.mem_registrations_of_get hget
    simp only [flakyAssistant, flakyGateway, List.mem_singleton, Prod.mk.injEq] at hmem
    rw [hmem.2]
    exact le_rfl
  have hcarried := carriedEach_memory flakyAssistant.ports (flakyUseCase.programs flakyQueries)
    ({ maxTurnsPerConversation := 20 }, ⟨(), ⟨1, (), []⟩, (), fun _ => {}, true⟩)
  obtain ⟨blocks, hlog, hguarded⟩ :=
    queries_guarded flakyAssistant flakyUseCase (by decide) (by decide)
    hretries memoryStore flakyQueries hcarried
  rw [flakyAssistant_ports] at hlog hguarded
  change _ = [] ++ blocks.flatten at hlog
  refine ⟨by decide +kernel, blocks, ?_, ?_⟩
  · unfold flakyEnd
    exact hlog
  · unfold flakyEnd
    exact hguarded

/-! ## Other sites -/

section

variable {assistant : Assistant B C OperationsDb L} {useCase : OrchestrateAssistantQuery}
  {pydantic : Pydantic} {py : Interpreter} {db db' : OperationsDb}
  {carry : (op : StoreOp) → T → Except PyError op.Reply → T → Prop}

/-- The same over another database. -/
def AssistantState.withDatabase (db : OperationsDb) (s : AssistantState B C OperationsDb L) :
    AssistantState B C OperationsDb L := { s with gateway := { s.gateway with world := db } }

theorem outcome_withDatabase (progress : Progress B (GatewayState OperationsDb L)) :
    assistant.outcome (progress.withDatabase db) = assistant.outcome progress := by
  cases progress <;> rfl

theorem leaving_withDatabase (thread : String) (progress : Progress B (GatewayState OperationsDb L))
    (s : AssistantState B C OperationsDb L) :
    assistant.leaving thread (progress.withDatabase db).run (s.withDatabase db) =
      (assistant.leaving thread progress.run s).withDatabase db := by
  cases progress <;> rfl

section

variable (hreads : ReadsOnly py pydantic assistant.runtime) {request : AgentRequest}
  (hglobal : request.authorizationContext.globalScope = false)
  (hagree : Operations.Agree request.authorizationContext.siteCodes db db')
  {s : AssistantState B C OperationsDb L} (hdb : s.gateway.world = db)

include hreads hglobal hagree hdb

theorem progress_siteBlind :
    assistant.progress request (s.withDatabase db') =
      (assistant.progress request s).withDatabase db' ∧
      (assistant.progress request s).run.world.world = db := by
  obtain ⟨context, ⟨_, limiter, log⟩, brain, threads, hasWorkflow⟩ := s
  obtain rfl : _ = db := hdb
  exact ainvoke_siteBlind assistant.py hreads hglobal (assistant.graphContext request) rfl
    request.toolPolicy (if assistant.hasCheckpointer
      then threads (assistant.threadId request) else {})
    request.maxToolCalls request.allowToolCalls brain limiter log assistant.recursionLimit hagree

/-- A run for an actor without global scope, over two databases that agree on the actor's sites. -/
theorem run_siteBlind :
    assistant.run request (s.withDatabase db') =
        ((assistant.run request s).1, (assistant.run request s).2.withDatabase db') ∧
      (assistant.run request s).2.gateway.world = db := by
  obtain ⟨hprogress, hworld⟩ := progress_siteBlind hreads hglobal hagree hdb
  unfold Assistant.run
  by_cases hworkflow : s.hasWorkflow = true
  · rw [if_pos hworkflow, if_pos (show (s.withDatabase db').hasWorkflow = true from hworkflow)]
    dsimp only
    rw [hprogress, outcome_withDatabase, leaving_withDatabase]
    exact ⟨rfl, hworld⟩
  · rw [if_neg hworkflow, if_neg (show ¬ (s.withDatabase db').hasWorkflow = true from hworkflow)]
    exact ⟨rfl, hdb⟩

end

/-- An operation for an actor whose sites the databases agree on. -/
def QueryOp.Sees (db db' : OperationsDb) : QueryOp → Prop
  | agent (.run request) => request.authorizationContext.globalScope = false ∧
      Operations.Agree request.authorizationContext.siteCodes db db'
  | _ => True

theorem ports_siteBlind (hreads : ReadsOnly py pydantic assistant.runtime) {op : AgentOp}
    (hsees : (QueryOp.agent op).Sees db db') {s : AssistantState B C OperationsDb L}
    (hdb : s.gateway.world = db) : assistant.ports op (s.withDatabase db') =
        ((assistant.ports op s).1, (assistant.ports op s).2.withDatabase db') ∧
      (assistant.ports op s).2.gateway.world = db := by
  cases op with
  | assemble conversationId request recentEvidence => exact ⟨rfl, hdb⟩
  | listTools authorizationContext => exact ⟨rfl, hdb⟩
  | run request => exact run_siteBlind hreads hsees.1 hsees.2 hdb

/-- The operations of a query are for the user who asks. -/
theorem execute_sees (useCase : OrchestrateAssistantQuery) {command : AssistantQueryCommand}
    (draws : QueryDraws) (hglobal : command.authorizationContext.globalScope = false)
    (hagree : Operations.Agree command.authorizationContext.siteCodes db db') :
    (useCase.execute command draws).Calls (QueryOp.Sees db db') := by
  have happend : ∀ exchange answer evidence response,
      (OrchestrateAssistantQuery.appendExchange exchange
      answer evidence >>= fun _ => pure response : Query AssistantQueryResponse).Calls
        (QueryOp.Sees db db') :=
    fun _ _ _ _ => .bind (.perform trivial) (fun _ => .pure _)
  unfold OrchestrateAssistantQuery.execute
  refine .bind (.perform trivial) (fun _ => ?_)
  unfold OrchestrateAssistantQuery.answerClaimed
  refine .bind (.perform trivial) (fun history => .bind (.perform trivial) (fun recentEvidence =>
    .bind (.ofExcept _) (fun reference => ?_)))
  cases reference with
  | some reference => exact .bind (.ofExcept _) (fun answer => happend _ answer none _)
  | none =>
    refine .bind (.perform trivial) (fun context => .bind (.attempt ?_) (fun r => ?_))
    · exact .bind (.perform trivial) (fun tools => .perform ⟨hglobal, hagree⟩)
    · cases r with
      | error e => exact .raise _
      | ok run => exact happend _ run.answer _ _

end

/-- Queries of users without global scope, one after another, over a runtime that only reads: they
return and raise the same over every database that agrees with this one on the sites of these users,
and leave the same everywhere else: the conversations, the checkpoints, the audit, the brain. -/
theorem queries_siteBlind {pydantic : Pydantic} {py : Interpreter}
    (assistant : Assistant B C OperationsDb L) (hreads : ReadsOnly py pydantic assistant.runtime)
    (useCase : OrchestrateAssistantQuery)
    (carry : (op : StoreOp) → T → Except PyError op.Reply → T → Prop)
    (queries : List (AssistantQueryCommand × QueryDraws))
    (hglobal : ∀ query ∈ queries, query.1.authorizationContext.globalScope = false)
    {db db' : OperationsDb}
    (hagree : ∀ query ∈ queries, Operations.Agree query.1.authorizationContext.siteCodes db db')
    {t t' : T} {s s' : AssistantState B C OperationsDb L} (hdb : s.gateway.world = db)
    {results : List (Except PyError AssistantQueryResponse)}
    (h : CarriedEach (Beside carry assistant.ports) (useCase.programs queries)
      (t, s) results (t', s')) :
    CarriedEach (Beside carry assistant.ports) (useCase.programs queries)
      (t, s.withDatabase db') results
        (t', s'.withDatabase db') ∧ s'.gateway.world = db := by
  refine h.transfer (g := fun w : T × AssistantState B C OperationsDb L =>
    (w.1, w.2.withDatabase db'))
    (P := QueryOp.Sees db db') (I := fun w => w.2.gateway.world = db) ?_ ?_ hdb
  · intro op w reply w' hsees hworld hcarry
    cases op with
    | store op => exact ⟨⟨hcarry.1, congrArg (AssistantState.withDatabase db') hcarry.2⟩, by
        rw [← hworld]; exact congrArg (fun s => s.gateway.world) hcarry.2⟩
    | agent op =>
      obtain ⟨hanswers, hkept⟩ := ports_siteBlind hreads hsees hworld
      obtain ⟨hreply, hstore⟩ := hcarry
      rw [hreply] at hanswers hkept
      exact ⟨⟨hanswers, hstore⟩, hkept⟩
  · intro program hprogram
    obtain ⟨query, hquery, rfl⟩ := List.mem_map.mp hprogram
    exact execute_sees useCase query.2 (hglobal query hquery) (hagree query hquery)

/-- An assistant with the read tools. -/
def readAssistant : Assistant Unit Unit OperationsDb FixedWindowRateLimiter where
  py := .ascii
  providers := fun _ _ _ c => ([], c)
  assembler := { tokenCounter := fun _ => .ok 1 }
  runtime := readRuntime
  modelJsonSchema := fun _ => []
  brain := flakyAssistant.brain
  modelName := "gpt"
  responseComposer := ⟨.ascii, id⟩
  sha256Hex := fun _ => "0"
  recursionLimit := 25
  recursionError := .runtimeError "recursion limit"

def readUseCase : OrchestrateAssistantQuery where
  toolPolicy := statusPolicy
  errorText := PyError.message

def readQueries : List (AssistantQueryCommand × QueryDraws) :=
  [({ query := "asset status at PLANT-1"
      authorizationContext := plant1Analyst
      conversationId := some (Uuid.ofNat 5) }, (questionOf 1 1 1 "").2)]

def readState (db : OperationsDb) : AssistantState Unit Unit OperationsDb FixedWindowRateLimiter :=
  ⟨(), ⟨db, .new 0, []⟩, (), fun _ => {}, true⟩

/-- The question about the assets, over a database and over one with a spare part of another
plant. -/
theorem queries_siteBlind_stocked :
    let ended :=
      Prog.answeredEach (inMemoryPorts readAssistant.ports) (readUseCase.programs readQueries)
      ({ maxTurnsPerConversation := 20 }, readState (crossSiteDb "PUMP-1"))
    CarriedEach (Beside memoryStore readAssistant.ports) (readUseCase.programs readQueries)
        ({ maxTurnsPerConversation := 20 }, readState stockedDb) ended.1
        (ended.2.1, ended.2.2.withDatabase stockedDb) ∧
      ended.2.2.gateway.world = crossSiteDb "PUMP-1" := by
  have hreads : ReadsOnly .ascii strictPydantic readAssistant.runtime := by
    refine ⟨rfl, ?_⟩
    intro toolName registration hget
    obtain ⟨registered, hmem, heq⟩ := List.mem_map.mp (ToolRegistry.mem_registrations_of_get hget)
    cases heq
    exact Or.inl hmem
  have hcarried := carriedEach_memory readAssistant.ports (readUseCase.programs readQueries)
    ({ maxTurnsPerConversation := 20 }, readState (crossSiteDb "PUMP-1"))
  refine queries_siteBlind readAssistant hreads readUseCase memoryStore readQueries ?_ ?_
    rfl hcarried
  · intro query hquery
    obtain rfl := List.mem_singleton.mp hquery
    rfl
  · intro query hquery
    obtain rfl := List.mem_singleton.mp hquery
    exact ⟨⟨rfl, rfl, rfl, rfl, rfl⟩, fun _ _ => rfl⟩

end HotAirBalloon.Agent
