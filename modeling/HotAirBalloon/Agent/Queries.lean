import HotAirBalloon.Agent.CompletedExchange
import HotAirBalloon.Agent.ReferencePolicy
import HotAirBalloon.Context.Assembly
import HotAirBalloon.Library.Ports
import HotAirBalloon.Memory.StoreRefinement

/-!
# Queries

`OrchestrateAssistantQuery.execute` of `application/use_cases.py` as a program over its ports: the
conversation store, and the ports of the agent (the context assembler, the tool runtime and the
orchestrator). The telemetry has no part in the outcome and is left out; drawn ids and readings of
the clock are arguments.

The conversation store is a dictionary in the tests and PostgreSQL in production. Whatever the ports
of the agent do, queries that run one after another return and raise the same over both
(`queries_overBoth`).
-/

namespace HotAirBalloon.Agent

open Python Library Kernel Evidence Memory User Context

/-! ## Ports -/

/-- The operations of the conversation store that a query uses, with what PostgreSQL draws in
them. -/
inductive StoreOp where
  | claimOrValidate (conversationId ownerUserId : Uuid) (observedAtUtc : DateTime)
  | readRecent (conversationId ownerUserId : Uuid) (limit : Int)
  | readRecentEvidence (conversationId ownerUserId : Uuid) (limit : Int) (now : DateTime)
  | appendCompletedExchange (conversationId ownerUserId : Uuid)
      (userTurn assistantTurn : ConversationTurn) (evidence : Option ConversationEvidenceSnapshot)
      (userTurnId assistantTurnId evidenceId : Uuid)

def StoreOp.Reply : StoreOp → Type
  | claimOrValidate .. => Unit
  | readRecent .. => List ConversationTurn
  | readRecentEvidence .. => List ConversationEvidenceSnapshot
  | appendCompletedExchange .. => Unit

/-- What `agent_orchestrator.run` is given. -/
structure AgentRequest where
  conversationId : Uuid
  authorizationContext : AuthorizationContext
  userQuery : String
  availableTools : List ToolDescriptor
  context : AssembledContext
  toolPolicy : ToolCallPolicy
  maxToolCalls : Int
  allowToolCalls : Bool

/-- The operations of the context assembler, the tool runtime and the orchestrator. -/
inductive AgentOp where
  | assemble (conversationId : Uuid) (request : ContextRequest)
      (recentEvidence : List ConversationEvidenceSnapshot)
  | listTools (authorizationContext : AuthorizationContext)
  | run (request : AgentRequest)

def AgentOp.Reply : AgentOp → Type
  | assemble .. => AssembledContext
  | listTools _ => List ToolDescriptor
  | run _ => AgentRunResult

inductive QueryOp where
  | store (op : StoreOp)
  | agent (op : AgentOp)

def QueryOp.Reply : QueryOp → Type
  | store op => op.Reply
  | agent op => op.Reply

abbrev Query (α : Type) := Prog PyError QueryOp QueryOp.Reply α

def askStore (op : StoreOp) : Query op.Reply :=
  (Prog.perform (QueryOp.store op) : Query (QueryOp.Reply (.store op)))

def askAgent (op : AgentOp) : Query op.Reply :=
  (Prog.perform (QueryOp.agent op) : Query (QueryOp.Reply (.agent op)))

/-! ## The use case -/

structure AssistantQueryCommand where
  query : String
  authorizationContext : AuthorizationContext
  conversationId : Option Uuid := none
  maxToolCalls : Int := 4
  allowToolCalls : Bool := true

/-- The values of `uuid4()` and the readings of the clock in a query. -/
structure QueryDraws where
  conversationId : Uuid
  userTurnCreatedAt : DateTime
  evidenceReadAt : DateTime
  answeredAt : DateTime
  userTurnId : Uuid
  assistantTurnId : Uuid
  evidenceId : Uuid
  exchangeId : Uuid

/-- The use case; `errorText` is `str` of an exception. -/
structure OrchestrateAssistantQuery where
  toolPolicy : ToolCallPolicy
  evidenceRetentionDays : Int := 90
  referenceResolver : Option ReferenceResolver := none
  hasFieldQueryExecutor : Bool := false
  fieldValueFormatters : Option FieldValueFormatterRegistry := none
  errorText : PyError → String

namespace OrchestrateAssistantQuery

variable (useCase : OrchestrateAssistantQuery)

/-- What the query and its draws say of the exchange. -/
def exchange (command : AssistantQueryCommand) (draws : QueryDraws) : Exchange where
  conversationId := command.conversationId.getD draws.conversationId
  ownerUserId := command.authorizationContext.userId
  query := command.query
  userTurnCreatedAt := draws.userTurnCreatedAt
  answeredAt := draws.answeredAt
  userTurnId := draws.userTurnId
  assistantTurnId := draws.assistantTurnId
  evidenceId := draws.evidenceId
  exchangeId := draws.exchangeId
  evidenceRetentionDays := useCase.evidenceRetentionDays

/-- The reference that the query resolves to, with the formatters, when all of the three are
there. -/
def reference (query : String) (recentEvidence : List ConversationEvidenceSnapshot) :
    Except PyError (Option (ResolvedReference × FieldValueFormatterRegistry)) :=
  match useCase.referenceResolver with
  | none => return none
  | some resolver => do
    match (← resolver.resolve query recentEvidence).reference, useCase.hasFieldQueryExecutor,
      useCase.fieldValueFormatters with
    | some reference, true, some formatters => return some (reference, formatters)
    | _, _, _ => return none

/-- The append of an exchange with an answer. -/
def appendExchange (exchange : Exchange) (answer : String)
    (evidence : Option ConversationEvidenceSnapshot) : Query Unit :=
  askStore (.appendCompletedExchange exchange.conversationId exchange.ownerUserId exchange.userTurn
    ⟨"assistant", answer, exchange.answeredAt⟩ evidence exchange.userTurnId exchange.assistantTurnId
    exchange.evidenceId)

/-- The answer from a resolved reference. -/
def answerReference (exchange : Exchange) (reference : ResolvedReference)
    (formatters : FieldValueFormatterRegistry) : Query AssistantQueryResponse := do
  let answer ← Prog.ofExcept (formatters.format (FieldQueryExecutor.execute reference))
  appendExchange exchange answer none
  return {
    answer := answer
    conversationId := exchange.conversationId
    agentName := "assistant.reference-resolver"
    modelName := "deterministic"
    finishReason := "completed"
    toolCalls := [] }

/-- `raise AssistantOrchestrationFailedError(str(ex)) from ex`. -/
def orchestrationFailed (e : PyError) : PyError :=
  if e.isException then ⟨"AssistantOrchestrationFailedError", useCase.errorText e, true⟩ else e

/-- The body of the `try`. -/
def runAgent (command : AssistantQueryCommand) (exchange : Exchange) (context : AssembledContext) :
    Query AgentRunResult := do
  let tools ← askAgent (.listTools command.authorizationContext)
  askAgent (.run {
    conversationId := exchange.conversationId
    authorizationContext := command.authorizationContext
    userQuery := command.query
    availableTools := tools
    context := context
    toolPolicy := useCase.toolPolicy
    maxToolCalls := command.maxToolCalls
    allowToolCalls := command.allowToolCalls })

/-- The answer of the agent. -/
def answerByAgent (command : AssistantQueryCommand) (exchange : Exchange)
    (history : List ConversationTurn) (recentEvidence : List ConversationEvidenceSnapshot) :
    Query AssistantQueryResponse := do
  let context ← askAgent (.assemble exchange.conversationId {
    userQuery := command.query
    authorizationContext := command.authorizationContext
    recentTurns := history } recentEvidence)
  match ← (useCase.runAgent command exchange context).attempt with
  | .error e => Prog.raise (useCase.orchestrationFailed e)
  | .ok run =>
    appendExchange exchange run.answer (exchange.snapshot run)
    return exchange.response run

/-- The rest of `execute`, once the conversation is claimed. -/
def answerClaimed (command : AssistantQueryCommand) (draws : QueryDraws) :
    Query AssistantQueryResponse := do
  let exchange := useCase.exchange command draws
  let history ← askStore (.readRecent exchange.conversationId exchange.ownerUserId 12)
  let recentEvidence ← askStore
    (.readRecentEvidence exchange.conversationId exchange.ownerUserId 12 draws.evidenceReadAt)
  match ← Prog.ofExcept (useCase.reference command.query recentEvidence) with
  | some (reference, formatters) => answerReference exchange reference formatters
  | none => useCase.answerByAgent command exchange history recentEvidence

/-- The claim with which a query begins. -/
def claim (command : AssistantQueryCommand) (draws : QueryDraws) : StoreOp :=
  .claimOrValidate (useCase.exchange command draws).conversationId
    (useCase.exchange command draws).ownerUserId draws.userTurnCreatedAt

/-- `execute`. -/
def execute (command : AssistantQueryCommand) (draws : QueryDraws) :
    Query AssistantQueryResponse := do
  let _ ← askStore (useCase.claim command draws)
  useCase.answerClaimed command draws

end OrchestrateAssistantQuery

/-! ## The stores -/

/-- An operation that leaves the store as it is where it raises. -/
def keeping (memory : InMemoryConversationStore) :
    Except PyError InMemoryConversationStore → Except PyError Unit × InMemoryConversationStore
  | .ok after => (.ok (), after)
  | .error e => (.error e, memory)

/-- The in-memory store. -/
def inMemoryStore : Port PyError StoreOp StoreOp.Reply InMemoryConversationStore
  | .claimOrValidate conversationId ownerUserId _, memory =>
    keeping memory (memory.claimOrValidate conversationId ownerUserId)
  | .readRecent conversationId ownerUserId limit, memory =>
    (memory.readRecent conversationId ownerUserId limit, memory)
  | .readRecentEvidence conversationId ownerUserId limit _, memory =>
    (memory.readRecentEvidence conversationId ownerUserId limit, memory)
  | .appendCompletedExchange conversationId ownerUserId userTurn assistantTurn evidence _ _ _,
    memory =>
    keeping memory
      (memory.appendCompletedExchange conversationId ownerUserId userTurn assistantTurn evidence)

/-- The PostgreSQL store. -/
def StoreOp.program (store : ConversationStore) : (op : StoreOp) → Action op.Reply
  | claimOrValidate conversationId ownerUserId observedAtUtc =>
    ConversationStore.claimOrValidate conversationId ownerUserId observedAtUtc
  | readRecent conversationId ownerUserId limit =>
    ConversationStore.readRecent conversationId ownerUserId limit
  | readRecentEvidence conversationId ownerUserId limit now =>
    store.readRecentEvidence conversationId ownerUserId limit now
  | appendCompletedExchange conversationId ownerUserId userTurn assistantTurn evidence userTurnId
      assistantTurnId evidenceId =>
    store.appendCompletedExchange conversationId ownerUserId userTurn assistantTurn
      evidence userTurnId assistantTurnId evidenceId

/-- Any ports of the agent, with a state of their own. -/
abbrev AgentPorts (A : Type) := Port PyError AgentOp AgentOp.Reply A

/-- A call of the ports of the agent, with the reply. -/
abbrev AgentCall := Replied PyError AgentOp.Reply

variable {A : Type}

/-- The in-memory store beside the ports of the agent. -/
def inMemoryPorts (agents : AgentPorts A) :
    Port PyError QueryOp QueryOp.Reply (InMemoryConversationStore × A)
  | .store op, s => ((inMemoryStore op s.1).1, (inMemoryStore op s.1).2, s.2)
  | .agent op, s => ((agents op s.2).1, s.1, (agents op s.2).2)

/-- A store that carries its operations out beside the ports of the agent. -/
def Beside {T : Type} (carry : (op : StoreOp) → T → Except PyError op.Reply → T → Prop)
    (agents : AgentPorts A) : (op : QueryOp) → T × A → Except PyError op.Reply → T × A → Prop
  | .store op, w, reply, w' => carry op w.1 reply w'.1 ∧ w'.2 = w.2
  | .agent op, w, reply, w' => agents op w.2 = (reply, w'.2) ∧ w'.1 = w.1

/-- The transactions of PostgreSQL, each alone. -/
def postgresStore (store : ConversationStore) (op : StoreOp) (t : Tables)
    (reply : Except PyError op.Reply)
    (t' : Tables) : Prop := RunsAlone () t t (op.program store) reply t' t'

/-- PostgreSQL beside the ports of the agent. -/
def PostgresCarries (store : ConversationStore) (agents : AgentPorts A) :
    (op : QueryOp) → Tables × A → Except PyError op.Reply → Tables × A → Prop :=
  Beside (postgresStore store) agents

/-! ## Both stores -/

/-- What a call draws that draws nothing. -/
def noDraws : Draws := ⟨.ofNat 0, .ofNat 0, .ofNat 0, 0⟩

/-- The operation as a call of either store. -/
def StoreOp.drawn : StoreOp → StoreCall × Draws
  | claimOrValidate conversationId ownerUserId observedAtUtc =>
    (.claimOrValidate conversationId ownerUserId observedAtUtc, noDraws)
  | readRecent conversationId ownerUserId limit =>
    (.readRecent conversationId ownerUserId limit, noDraws)
  | readRecentEvidence conversationId ownerUserId limit now =>
    (.readRecentEvidence conversationId ownerUserId limit, { noDraws with now := now })
  | appendCompletedExchange conversationId ownerUserId userTurn assistantTurn evidence userTurnId
      assistantTurnId evidenceId =>
    (.appendCompletedExchange conversationId ownerUserId userTurn assistantTurn evidence,
      { noDraws with
        turnId := userTurnId, assistantTurnId := assistantTurnId, evidenceId := evidenceId })

def QueryOp.storeCall? : QueryOp → Option (StoreCall × Draws)
  | store op => some op.drawn
  | agent _ => none

/-- The calls of the store among the operations of queries. -/
def storeCalls (ops : List QueryOp) : List (StoreCall × Draws) := ops.filterMap QueryOp.storeCall?

theorem storeCalls_append (ops ops' : List QueryOp) :
    storeCalls (ops ++ ops') = storeCalls ops ++ storeCalls ops' := List.filterMap_append

section

variable {store : ConversationStore} {memory : InMemoryConversationStore} {t : Tables}

/-- A call that writes does so in both stores, or raises in both. -/
theorem runs_keeping {p : Action Unit} {operation : Except PyError InMemoryConversationStore}
    {pending : Pending} (hkept : Simulates store memory t pending)
    (h : CallRefines () t p operation (fun _ after t' => Simulates store after t' pending)) :
    ∃ t', RunsAlone () t t p (keeping memory operation).1 t' t' ∧
      Simulates store (keeping memory operation).2 t' pending := by
  cases operation with
  | error e => exact ⟨t, h, hkept⟩
  | ok after =>
    obtain ⟨⟨⟩, t', hrun, hsimulates⟩ := h
    exact ⟨t', hrun, hsimulates⟩

/-- A call that reads returns the same in both stores. -/
theorem runs_read {α : Type} {p : Action α} {operation : Except PyError α}
    (h : CallRefines () t p operation (fun a b t' => a = b ∧ t' = t)) :
    RunsAlone () t t p operation t t := by
  cases operation with
  | error e => exact h
  | ok b =>
    obtain ⟨a, t', hrun, rfl, rfl⟩ := h
    exact hrun

/-- PostgreSQL carries each operation out as the in-memory store answers it. -/
theorem store_carried {op : StoreOp} {rest : List (StoreCall × Draws)}
    (h : Simulates store memory t (pendingOf (op.drawn :: rest))) (hmatches : op.drawn.1.Matches)
    (hlimit : op.drawn.1.LimitWithin memory.maxTurnsPerConversation) :
    ∃ t', RunsAlone () t t (op.program store) (inMemoryStore op memory).1 t' t' ∧
      Simulates store (inMemoryStore op memory).2 t' (pendingOf rest) := by
  have hkept := h.within (pendingOf_within op.drawn rest)
  cases op with
  | claimOrValidate conversationId ownerUserId observedAtUtc =>
    exact runs_keeping hkept (claimOrValidate_refines hkept observedAtUtc)
  | readRecent conversationId ownerUserId limit =>
    exact ⟨t, runs_read (readRecent_refines h hlimit), hkept⟩
  | readRecentEvidence conversationId ownerUserId limit now =>
    exact ⟨t, runs_read (readRecentEvidence_refines h List.mem_cons_self), hkept⟩
  | appendCompletedExchange conversationId ownerUserId userTurn assistantTurn evidence userTurnId
      assistantTurnId evidenceId =>
    exact runs_keeping hkept (appendCompletedExchange_refines h rfl rfl hmatches)

theorem maxTurns_keeping {operation : Except PyError InMemoryConversationStore}
    (h : ∀ after, operation = .ok after →
      after.maxTurnsPerConversation = memory.maxTurnsPerConversation) :
    (keeping memory operation).2.maxTurnsPerConversation = memory.maxTurnsPerConversation := by
  cases operation with
  | error e => rfl
  | ok after => exact h after rfl

theorem maxTurns_inMemoryStore (op : StoreOp) :
    (inMemoryStore op memory).2.maxTurnsPerConversation = memory.maxTurnsPerConversation := by
  cases op with
  | claimOrValidate conversationId ownerUserId observedAtUtc =>
    exact maxTurns_keeping (fun _ => maxTurns_claimOrValidateIn)
  | readRecent conversationId ownerUserId limit => rfl
  | readRecentEvidence conversationId ownerUserId limit now => rfl
  | appendCompletedExchange conversationId ownerUserId userTurn assistantTurn evidence userTurnId
      assistantTurnId evidenceId =>
    refine maxTurns_keeping ?_
    intro after hafter
    have hanswer : memory.answer (.appendCompletedExchange conversationId ownerUserId userTurn
        assistantTurn evidence) = .ok (.done, after) := by
      unfold InMemoryConversationStore.answer
      dsimp only
      rw [hafter]
      rfl
    exact maxTurns_answer hanswer

end

/-- What ties the in-memory store to PostgreSQL while some operations are still to come. -/
structure Tied (store : ConversationStore) (maxTurns : Int) (ops : List QueryOp)
    (s : InMemoryConversationStore × A) (w : Tables × A) : Prop where
  simulates : Simulates store s.1 w.1 (pendingOf (storeCalls ops))
  agents : s.2 = w.2
  maxTurns_eq : s.1.maxTurnsPerConversation = maxTurns
  matching : ∀ call ∈ storeCalls ops, call.1.Matches
  limits : ∀ call ∈ storeCalls ops, call.1.LimitWithin maxTurns

/-- PostgreSQL carries the operations of queries out as the in-memory store answers them. -/
theorem postgres_carriesOut (store : ConversationStore) (agents : AgentPorts A) (maxTurns : Int) :
    CarriesOut (PostgresCarries store agents) (inMemoryPorts agents) (Tied store maxTurns) := by
  rintro op rest ⟨memory, a⟩ ⟨t, a'⟩ htied
  obtain rfl : a = a' := htied.agents
  cases op with
  | store op =>
    obtain rfl := htied.maxTurns_eq
    obtain ⟨t', hrun, hsimulates⟩ := store_carried htied.simulates
      (htied.matching op.drawn List.mem_cons_self) (htied.limits op.drawn List.mem_cons_self)
    refine ⟨(t', a), ⟨hrun, rfl⟩, hsimulates, rfl, maxTurns_inMemoryStore op, ?_, ?_⟩
    · exact fun call hcall => htied.matching call (List.mem_cons_of_mem _ hcall)
    · exact fun call hcall => htied.limits call (List.mem_cons_of_mem _ hcall)
  | agent op =>
    exact ⟨(t, (agents op a).2), ⟨rfl, rfl⟩, htied.simulates, rfl, htied.maxTurns_eq,
      htied.matching, htied.limits⟩

/-- A transaction that runs alone has one outcome. -/
theorem postgresStore_unique {store : ConversationStore} {op : StoreOp} {t t₁ t₂ : Tables}
    {reply reply' : Except PyError op.Reply} (h : postgresStore store op t reply t₁)
    (h' : postgresStore store op t reply' t₂) : reply = reply' ∧ t₁ = t₂ := by
  obtain ⟨r, w, hrun, rfl, halone⟩ := h .empty _ (Alone.start () [])
  obtain ⟨r', w', hrun', rfl, halone'⟩ := h' .empty _ (Alone.start () [])
  obtain ⟨rfl, rfl⟩ := Prod.mk.inj (Option.some.inj (hrun.symm.trans hrun'))
  exact ⟨rfl, halone.committed.symm.trans halone'.committed⟩

theorem postgres_carriesUniquely (store : ConversationStore) (agents : AgentPorts A) :
    CarriesUniquely (PostgresCarries store agents) := by
  intro op w reply w₁ reply' w₂ h h'
  cases op with
  | store op =>
    obtain ⟨hreply, htables⟩ := postgresStore_unique h.1 h'.1
    exact ⟨hreply, Prod.ext htables (h.2.trans h'.2.symm)⟩
  | agent op =>
    obtain ⟨hreply, hagents⟩ := Prod.mk.inj (h.1.symm.trans h'.1)
    exact ⟨hreply, Prod.ext (h.2.trans h'.2.symm) hagents⟩

/-! ## The calls of a query -/

/-- A call of the store that writes no turns and no evidence, and reads evidence at one time at
most. -/
structure ReadsAt (now : DateTime) (call : StoreCall × Draws) : Prop where
  turns : call.1.turns call.2 = []
  snapshots : call.1.snapshots call.2 = []
  evidenceReads : ∀ read ∈ call.1.evidenceReads call.2, read = now
  matching : call.1.Matches
  limit : call.1.LimitWithin 12

/-- The calls of the store that a query makes: some that read, and at most one append at the end. -/
inductive QueryCalls (exchange : Exchange) (now : DateTime) : List (StoreCall × Draws) → Prop where
  | reads {calls : List (StoreCall × Draws)} (h : ∀ call ∈ calls, ReadsAt now call) :
      QueryCalls exchange now calls
  | appended {calls : List (StoreCall × Draws)} (h : ∀ call ∈ calls, ReadsAt now call)
      (answer : String) (evidence : Option ConversationEvidenceSnapshot)
      (hevidence : evidence = none ∨ ∃ run, evidence = exchange.snapshot run) :
      QueryCalls exchange now (calls ++ [(StoreOp.appendCompletedExchange exchange.conversationId
        exchange.ownerUserId exchange.userTurn ⟨"assistant", answer, exchange.answeredAt⟩ evidence
        exchange.userTurnId exchange.assistantTurnId exchange.evidenceId).drawn])

section

variable {σ : Type} {port : Port PyError QueryOp QueryOp.Reply σ} {s : σ} {exchange : Exchange}
  {now : DateTime}

theorem QueryCalls.cons {call : StoreCall × Draws} {calls : List (StoreCall × Draws)}
    (hcall : ReadsAt now call) (h : QueryCalls exchange now calls) :
    QueryCalls exchange now (call :: calls) := by
  cases h with
  | reads h => exact .reads (List.forall_mem_cons.mpr ⟨hcall, h⟩)
  | appended h answer evidence hevidence =>
    exact .appended (List.forall_mem_cons.mpr ⟨hcall, h⟩) answer evidence hevidence

theorem QueryCalls.nil : QueryCalls exchange now [] :=
  .reads (fun _ hcall => absurd hcall List.not_mem_nil)

/-- An operation of the store that only reads, and then a query. -/
theorem queryCalls_askStore {α : Type} {op : StoreOp} {f : op.Reply → Query α}
    (hop : ReadsAt now op.drawn)
    (hf : ∀ reply s', QueryCalls exchange now (storeCalls ((f reply).asked port s'))) :
    QueryCalls exchange now (storeCalls ((askStore op >>= f).asked port s)) := by
  change QueryCalls exchange now (op.drawn :: storeCalls (((Prog.done (port (.store op) s).1 :
    Query op.Reply) >>= f).asked port (port (.store op) s).2))
  refine QueryCalls.cons hop ?_
  cases hreply : (port (.store op) s).1 with
  | error e => exact .nil
  | ok reply => exact hf reply _

/-- An operation of the agent's ports, and then a query. -/
theorem queryCalls_askAgent {α : Type} {op : AgentOp} {f : op.Reply → Query α}
    (hf : ∀ reply s', QueryCalls exchange now (storeCalls ((f reply).asked port s'))) :
    QueryCalls exchange now (storeCalls ((askAgent op >>= f).asked port s)) := by
  change QueryCalls exchange now (storeCalls (((Prog.done (port (.agent op) s).1 :
    Query op.Reply) >>= f).asked port (port (.agent op) s).2))
  cases hreply : (port (.agent op) s).1 with
  | error e => exact .nil
  | ok reply => exact hf reply _

/-- An append, and then a response. -/
theorem queryCalls_append {answer : String} {evidence : Option ConversationEvidenceSnapshot}
    (hevidence : evidence = none ∨ ∃ run, evidence = exchange.snapshot run)
    (response : AssistantQueryResponse) :
    QueryCalls exchange now (storeCalls ((OrchestrateAssistantQuery.appendExchange exchange answer
      evidence >>= fun _ => pure response).asked port s)) := by
  let op := StoreOp.appendCompletedExchange exchange.conversationId exchange.ownerUserId
    exchange.userTurn ⟨"assistant", answer, exchange.answeredAt⟩ evidence exchange.userTurnId
    exchange.assistantTurnId exchange.evidenceId
  have happended : QueryCalls exchange now ([] ++ [op.drawn]) :=
    .appended (fun _ hcall => absurd hcall List.not_mem_nil) answer evidence hevidence
  change QueryCalls exchange now (op.drawn :: storeCalls (((Prog.done (port (.store op) s).1 :
    Query Unit) >>= fun _ => (pure response : Query _)).asked port (port (.store op) s).2))
  cases (port (.store op) s).1 with
  | error e => exact happended
  | ok reply => exact happended

variable (useCase : OrchestrateAssistantQuery) (command : AssistantQueryCommand)

theorem queryCalls_answerReference (reference : ResolvedReference)
    (formatters : FieldValueFormatterRegistry) :
    QueryCalls exchange now (storeCalls
      ((OrchestrateAssistantQuery.answerReference exchange reference formatters).asked
        port s)) := by
  unfold OrchestrateAssistantQuery.answerReference
  cases formatters.format (FieldQueryExecutor.execute reference) with
  | error e => exact .nil
  | ok answer => exact queryCalls_append (Or.inl rfl) _

/-- The body of the `try` asks the ports of the agent only. -/
theorem storeCalls_runAgent (context : AssembledContext) :
    storeCalls ((useCase.runAgent command exchange context).asked port s) = [] := by
  unfold OrchestrateAssistantQuery.runAgent
  have hlist :
      ∀ (reply : Except PyError (List ToolDescriptor)) (f : List ToolDescriptor → AgentRequest) s',
      storeCalls (((Prog.done reply : Query _) >>= fun tools =>
        askAgent (.run (f tools))).asked port s') =
        [] := by
    intro reply f s'
    cases reply with
    | error e => rfl
    | ok tools => rfl
  exact hlist (port (.agent (.listTools command.authorizationContext)) s).1 _ _

theorem queryCalls_answerByAgent (history : List ConversationTurn)
    (recentEvidence : List ConversationEvidenceSnapshot) :
    QueryCalls exchange now (storeCalls
      ((useCase.answerByAgent command exchange history recentEvidence).asked port s)) := by
  unfold OrchestrateAssistantQuery.answerByAgent
  refine queryCalls_askAgent ?_
  intro context s'
  have hrun : storeCalls ((useCase.runAgent command exchange context).asked port s') = [] :=
    storeCalls_runAgent useCase command context
  rw [Prog.asked_bind_ok Prog.answered_attempt, Prog.asked_attempt, storeCalls_append, hrun,
    List.nil_append]
  cases ((useCase.runAgent command exchange context).answered port s').1 with
  | error e => exact .nil
  | ok run => exact queryCalls_append (Or.inr ⟨run, rfl⟩) _

/-- A query makes some calls of the store that read, and then at most one append. -/
theorem queryCalls_execute (draws : QueryDraws) :
    QueryCalls (useCase.exchange command draws) draws.evidenceReadAt
      (storeCalls ((useCase.execute command draws).asked port s)) := by
  unfold OrchestrateAssistantQuery.execute
  refine queryCalls_askStore ⟨rfl, rfl, fun _ hread => absurd hread List.not_mem_nil,
    trivial, trivial⟩ ?_
  intro _ s₁
  unfold OrchestrateAssistantQuery.answerClaimed
  refine queryCalls_askStore ⟨rfl, rfl, fun _ hread => absurd hread List.not_mem_nil,
    trivial, le_rfl⟩ ?_
  intro history s₂
  refine queryCalls_askStore ⟨rfl, rfl, fun _ hread => List.mem_singleton.mp hread,
    trivial, trivial⟩ ?_
  intro recentEvidence s₃
  cases useCase.reference command.query recentEvidence with
  | error e => exact .nil
  | ok reference =>
    cases reference with
    | none => exact queryCalls_answerByAgent useCase command history recentEvidence
    | some reference => exact queryCalls_answerReference reference.1 reference.2

end

/-! ## What queries draw -/

/-- When the evidence of an exchange expires. -/
def OrchestrateAssistantQuery.evidenceExpiry (useCase : OrchestrateAssistantQuery)
    (draws : QueryDraws) :
    DateTime := draws.userTurnCreatedAt + DateTime.days useCase.evidenceRetentionDays

/-- The turns of a query that is answered. -/
def QueryDraws.turns (draws : QueryDraws) : List (Uuid × DateTime) :=
  [(draws.userTurnId, draws.userTurnCreatedAt), (draws.assistantTurnId, draws.answeredAt)]

/-- What is written under ids and at times that queries have drawn, in their order, and read when
they read; the evidence is the run's. -/
structure DrawnFrom (useCase : OrchestrateAssistantQuery) (draws : List QueryDraws)
    (pending : Pending) : Prop where
  turns : pending.turns.Sublist (draws.flatMap QueryDraws.turns)
  snapshots : (pending.snapshots.map fun entry => (entry.1, entry.2.exchangeId,
    entry.2.createdAtUtc, entry.2.expiresAtUtc, entry.2.toolName)).Sublist
      (draws.map fun d => (d.evidenceId, d.exchangeId, d.userTurnCreatedAt,
        some (useCase.evidenceExpiry d), Exchange.runToolName))
  reads : ∀ now ∈ pending.reads, ∃ d ∈ draws, now = d.evidenceReadAt

section

variable {useCase : OrchestrateAssistantQuery}

theorem pendingOf_readsAt {now : DateTime} {calls : List (StoreCall × Draws)}
    (h : ∀ call ∈ calls, ReadsAt now call) : (pendingOf calls).turns = [] ∧
      (pendingOf calls).snapshots = [] ∧ ∀ read ∈ (pendingOf calls).reads, read = now := by
  refine ⟨List.flatMap_eq_nil_iff.mpr (fun call hcall => (h call hcall).turns),
    List.flatMap_eq_nil_iff.mpr (fun call hcall => (h call hcall).snapshots), ?_⟩
  intro read hread
  obtain ⟨call, hcall, hmem⟩ := List.mem_flatMap.mp hread
  exact (h call hcall).evidenceReads read hmem

theorem drawnFrom_of_queryCalls {command : AssistantQueryCommand} {draws : QueryDraws}
    {calls : List (StoreCall × Draws)}
    (h : QueryCalls (useCase.exchange command draws) draws.evidenceReadAt calls) :
    DrawnFrom useCase [draws] (pendingOf calls) := by
  cases h with
  | reads h =>
    obtain ⟨hturns, hsnapshots, hreads⟩ := pendingOf_readsAt h
    refine ⟨by simp [hturns], by simp [hsnapshots], ?_⟩
    exact fun now hnow => ⟨draws, List.mem_singleton_self _, hreads now hnow⟩
  | @appended before h answer evidence hevidence =>
    obtain ⟨hturns, hsnapshots, hreads⟩ := pendingOf_readsAt h
    refine ⟨?_, ?_, ?_⟩
    · unfold pendingOf at hturns ⊢
      dsimp only at hturns ⊢
      rw [List.flatMap_append, hturns]
      exact List.Sublist.refl _
    · unfold pendingOf at hsnapshots ⊢
      dsimp only at hsnapshots ⊢
      rw [List.flatMap_append, hsnapshots]
      rcases hevidence with rfl | ⟨run, rfl⟩
      · exact List.nil_sublist _
      · cases hsnapshot : (useCase.exchange command draws).snapshot run with
        | none => exact List.nil_sublist _
        | some snapshot =>
          unfold Exchange.snapshot at hsnapshot
          split at hsnapshot
          · cases hsnapshot
          · cases hsnapshot
            exact List.Sublist.refl _
    · intro now hnow
      unfold pendingOf at hreads hnow
      dsimp only at hreads hnow
      rw [List.flatMap_append, List.mem_append] at hnow
      rcases hnow with hnow | hnow
      · exact ⟨draws, List.mem_singleton_self _, hreads now hnow⟩
      · cases hnow

theorem DrawnFrom.append {draws draws' : List QueryDraws} {calls calls' : List (StoreCall × Draws)}
    (h : DrawnFrom useCase draws (pendingOf calls))
    (h' : DrawnFrom useCase draws' (pendingOf calls')) :
    DrawnFrom useCase (draws ++ draws') (pendingOf (calls ++ calls')) := by
  refine ⟨?_, ?_, ?_⟩
  · rw [List.flatMap_append]
    change (List.flatMap _ (calls ++ calls')).Sublist _
    rw [List.flatMap_append]
    exact h.turns.append h'.turns
  · rw [List.map_append]
    change ((List.flatMap _ (calls ++ calls')).map _).Sublist _
    rw [List.flatMap_append, List.map_append]
    exact h.snapshots.append h'.snapshots
  · intro now hnow
    change now ∈ List.flatMap _ (calls ++ calls') at hnow
    rw [List.flatMap_append, List.mem_append] at hnow
    rcases hnow with hnow | hnow
    · obtain ⟨d, hd, heq⟩ := h.reads now hnow
      exact ⟨d, List.mem_append_left _ hd, heq⟩
    · obtain ⟨d, hd, heq⟩ := h'.reads now hnow
      exact ⟨d, List.mem_append_right _ hd, heq⟩

theorem limitWithin_of_le {call : StoreCall} {limit maxTurns : Int} (h : call.LimitWithin limit)
    (hle : limit ≤ maxTurns) : call.LimitWithin maxTurns := by
  cases call with
  | readRecent conversationId ownerUserId asked => exact le_trans h hle
  | _ => trivial

/-- Evidence is appended to the conversation of its owner, and no query asks for more than 12
turns. -/
theorem QueryCalls.within {exchange : Exchange} {now : DateTime} {calls : List (StoreCall × Draws)}
    (h : QueryCalls exchange now calls) :
    ∀ call ∈ calls, call.1.Matches ∧ call.1.LimitWithin 12 := by
  cases h with
  | reads h => exact fun call hcall => ⟨(h call hcall).matching, (h call hcall).limit⟩
  | appended h answer evidence hevidence =>
    intro call hcall
    rcases List.mem_append.mp hcall with hcall | hcall
    · exact ⟨(h call hcall).matching, (h call hcall).limit⟩
    · obtain rfl := List.mem_singleton.mp hcall
      refine ⟨?_, trivial⟩
      intro snapshot hsnapshot
      rcases hevidence with rfl | ⟨run, rfl⟩
      · cases hsnapshot
      · obtain ⟨-, hconversation, howner, -⟩ := Exchange.snapshot_eq_some hsnapshot
        exact ⟨hconversation, howner⟩

/-- The programs of some queries. -/
def OrchestrateAssistantQuery.programs (useCase : OrchestrateAssistantQuery)
    (queries : List (AssistantQueryCommand × QueryDraws)) : List (Query AssistantQueryResponse) :=
  queries.map fun query => useCase.execute query.1 query.2

theorem askedEach_programs {σ : Type} (useCase : OrchestrateAssistantQuery)
    (port : Port PyError QueryOp QueryOp.Reply σ)
    (queries : List (AssistantQueryCommand × QueryDraws)) (s : σ) :
    DrawnFrom useCase (queries.map Prod.snd)
        (pendingOf (storeCalls (Prog.askedEach port (useCase.programs queries) s))) ∧
      ∀ call ∈ storeCalls (Prog.askedEach port (useCase.programs queries) s),
        call.1.Matches ∧ call.1.LimitWithin 12 := by
  induction queries generalizing s with
  | nil =>
    refine ⟨⟨List.Sublist.refl _, List.Sublist.refl _, fun now hnow =>
      absurd hnow List.not_mem_nil⟩, ?_⟩
    exact fun call hcall => absurd hcall List.not_mem_nil
  | cons query rest ih =>
    have hfirst : QueryCalls _ _ (storeCalls ((useCase.execute query.1 query.2).asked port s)) :=
      queryCalls_execute useCase query.1 query.2
    obtain ⟨hdrawn, hwithin⟩ := ih ((useCase.execute query.1 query.2).answered port s).2
    change DrawnFrom useCase ([query.2] ++ rest.map Prod.snd) (pendingOf (storeCalls (_ ++ _))) ∧
      ∀ call ∈ storeCalls (_ ++ _), _
    rw [storeCalls_append]
    refine ⟨(drawnFrom_of_queryCalls hfirst).append hdrawn, ?_⟩
    intro call hcall
    rcases List.mem_append.mp hcall with hcall | hcall
    · exact hfirst.within call hcall
    · exact hwithin call hcall

/-- `uuid4()` does not repeat, the clock goes on, and no evidence of the queries expires between
them. -/
structure OrderlyDraws (useCase : OrchestrateAssistantQuery) (draws : List QueryDraws) : Prop where
  turnIds : ((draws.flatMap QueryDraws.turns).map Prod.fst).Nodup
  turnTimes : ((draws.flatMap QueryDraws.turns).map Prod.snd).Pairwise (· < ·)
  evidenceIds : (draws.map (·.evidenceId)).Nodup
  exchangeIds : (draws.map (·.exchangeId)).Nodup
  unexpired : ∀ d ∈ draws, ∀ d' ∈ draws, d'.evidenceReadAt < useCase.evidenceExpiry d

/-- The times of the user's turns are among those of the turns. -/
theorem OrderlyDraws.userTurnTimes {draws : List QueryDraws} (h : OrderlyDraws useCase draws) :
    (draws.map (·.userTurnCreatedAt)).Pairwise (· < ·) := by
  have hsublist : (draws.map (·.userTurnCreatedAt)).Sublist
      ((draws.flatMap QueryDraws.turns).map Prod.snd) := by
    clear h
    induction draws with
    | nil => exact List.Sublist.refl _
    | cons d rest ih => exact (ih.cons d.answeredAt).cons_cons d.userTurnCreatedAt
  exact h.turnTimes.sublist hsublist

theorem DrawnFrom.admissible {store : ConversationStore} {maxTurns : Int} {draws : List QueryDraws}
    {calls : List (StoreCall × Draws)} (h : DrawnFrom useCase draws (pendingOf calls))
    (horderly : OrderlyDraws useCase draws) (hlimit : 12 ≤ maxTurns)
    (hwithin : ∀ call ∈ calls, call.1.Matches ∧ call.1.LimitWithin 12)
    (hroundTrips : ∀ snapshot ∈ (pendingOf calls).snapshots, RoundTrips store snapshot.2) :
    AdmissibleCalls store maxTurns calls where
  turnTimes := horderly.turnTimes.sublist (h.turns.map Prod.snd)
  turnIds := horderly.turnIds.sublist (h.turns.map Prod.fst)
  evidenceTimes := by
    have htimes := h.snapshots.map (fun entry => entry.2.2.1)
    rw [List.map_map, List.map_map] at htimes
    exact horderly.userTurnTimes.sublist htimes
  evidenceIds := by
    have hids := h.snapshots.map (fun entry => entry.1)
    rw [List.map_map, List.map_map] at hids
    exact horderly.evidenceIds.sublist hids
  exchangeIds := by
    have hids := h.snapshots.map (fun entry => entry.2.1)
    rw [List.map_map, List.map_map] at hids
    exact horderly.exchangeIds.sublist hids
  matching := fun call hcall => (hwithin call hcall).1
  roundTrips := hroundTrips
  unexpired := by
    intro snapshot hsnapshot now hnow
    obtain ⟨d', hd', rfl⟩ := h.reads now hnow
    obtain ⟨d, hd, heq⟩ := List.mem_map.mp (h.snapshots.subset (List.mem_map_of_mem hsnapshot))
    have hexpires : some (useCase.evidenceExpiry d) = snapshot.2.expiresAtUtc :=
      congrArg (fun entry => entry.2.2.2.1) heq
    rw [← hexpires]
    exact decide_eq_true (horderly.unexpired d hd d' hd')
  limits := fun call hcall => limitWithin_of_le (hwithin call hcall).2 hlimit

theorem DrawnFrom.toolNamesFit {draws : List QueryDraws} {calls : List (StoreCall × Draws)}
    (h : DrawnFrom useCase draws (pendingOf calls)) : ToolNamesFit calls := by
  intro snapshot hsnapshot
  obtain ⟨d, -, heq⟩ := List.mem_map.mp (h.snapshots.subset (List.mem_map_of_mem hsnapshot))
  have hname : Exchange.runToolName = snapshot.2.toolName :=
    congrArg (fun entry => entry.2.2.2.2) heq
  rw [← hname]
  decide

end

/-- The snapshots that some operations append. -/
def appendedSnapshots (ops : List QueryOp) : List ConversationEvidenceSnapshot :=
  (pendingOf (storeCalls ops)).snapshots.map Prod.snd

/-- Stores that are empty are tied when queries begin. -/
theorem tied_empty (store : ConversationStore) {maxTurns : Int} (hlimit : 12 ≤ maxTurns)
    {useCase : OrchestrateAssistantQuery} {queries : List (AssistantQueryCommand × QueryDraws)}
    (horderly : OrderlyDraws useCase (queries.map Prod.snd)) {agents : AgentPorts A} {a : A}
    (hroundTrips : ∀ snapshot ∈ appendedSnapshots (Prog.askedEach (inMemoryPorts agents)
      (useCase.programs queries) ({ maxTurnsPerConversation := maxTurns }, a)),
        RoundTrips store snapshot) :
    Tied store maxTurns (Prog.askedEach (inMemoryPorts agents) (useCase.programs queries)
      ({ maxTurnsPerConversation := maxTurns }, a) ++ [])
      ({ maxTurnsPerConversation := maxTurns }, a) (Tables.empty, a) := by
  obtain ⟨hdrawn, hwithin⟩ := askedEach_programs useCase (inMemoryPorts agents) queries
    (({ maxTurnsPerConversation := maxTurns }, a) : InMemoryConversationStore × A)
  have hadmissible := hdrawn.admissible horderly hlimit hwithin
    (fun snapshot hsnapshot => hroundTrips snapshot.2 (List.mem_map_of_mem hsnapshot))
  -- only the store of the components counts
  have hempty := @simulates_empty { Components.wired store.py id id with store := store } maxTurns _
    hadmissible hdrawn.toolNamesFit
  rw [List.append_nil]
  exact ⟨hempty, rfl, rfl, hadmissible.matching, hadmissible.limits⟩

/-! ## A session -/

/-- The agent's answer with two work orders, one of which has a due date. -/
def ordersRun : AgentRunResult where
  answer := "There are two work orders."
  modelName := "gpt"
  finishReason := .completed
  toolCalls := []
  evidence := [.collection {
    evidenceId := "orders"
    entityLabel := "work order"
    entityLabelPlural := "work orders"
    filters := []
    requestedCount := none
    items := [
      ⟨"orders:1", "WO-1", "Replace the seal", [⟨"due_at", "Due", .str "2026-05-01"⟩], none⟩,
      ⟨"orders:2", "WO-2", "Inspect the pump", [], none⟩] }]

/-- An agent that always answers so, and counts its answers. -/
def ordersAgents : AgentPorts Nat
  | .assemble .., n => (.ok ⟨[], 0, 0⟩, n)
  | .listTools _, n => (.ok [], n)
  | .run _, n => (.ok ordersRun, n + 1)

def ordersUseCase : OrchestrateAssistantQuery where
  toolPolicy := { allowedToolNames := [] }
  referenceResolver := some ((buildDefaultReferenceResolutionPolicy .ascii).buildResolver .ascii)
  hasFieldQueryExecutor := true
  fieldValueFormatters :=
    some ((buildDefaultReferenceResolutionPolicy .ascii).buildFormatterRegistry .ascii)
  errorText := PyError.message

/-- A question of a user in a conversation, in a minute of its own. -/
def questionOf (user conversation minute : Nat) (query : String) :
    AssistantQueryCommand × QueryDraws :=
  ({ query := query
     authorizationContext := {
       userId := Uuid.ofNat user, roles := [.maintenanceTechnician], siteCodes_nodup :=
         List.nodup_nil }
     conversationId := some (Uuid.ofNat conversation) },
   { conversationId := Uuid.ofNat 0
     userTurnCreatedAt := 60 * minute
     evidenceReadAt := 60 * minute + 1
     answeredAt := 60 * minute + 2
     userTurnId := Uuid.ofNat (10 * minute)
     assistantTurnId := Uuid.ofNat (10 * minute + 1)
     evidenceId := Uuid.ofNat (10 * minute + 2)
     exchangeId := Uuid.ofNat (10 * minute + 3) })

/-- The evidence that such a question leaves. -/
def ordersSnapshot (user conversation minute : Nat) : ConversationEvidenceSnapshot where
  conversationId := Uuid.ofNat conversation
  ownerUserId := Uuid.ofNat user
  exchangeId := Uuid.ofNat (10 * minute + 3)
  toolName := Exchange.runToolName
  evidence := ordersRun.evidence
  createdAtUtc := 60 * minute
  expiresAtUtc := some (60 * minute + DateTime.days 90)

theorem roundTrips_of_decodes {snapshot : ConversationEvidenceSnapshot}
    (hjson : (snapshot.toJson .ascii).toOption.isSome = true) (hdecodes : snapshot.Decodes)
    (hsourceless : snapshot.Sourceless) :
    RoundTrips { py := .ascii, jsonColumn := id } snapshot := by
  obtain ⟨payload, hpayload⟩ := exists_toJson hjson
  refine ⟨payload, hpayload, (fromJson_toJson hpayload _).mpr ⟨hdecodes, ?_⟩⟩
  exact ((withoutSources_eq_self _).mpr hsourceless).symm

theorem roundTrips_ordersSnapshot (user conversation minute : Nat)
    (hjson : ((ordersSnapshot user conversation minute).toJson .ascii).toOption.isSome = true) :
    RoundTrips { py := .ascii, jsonColumn := id } (ordersSnapshot user conversation minute) := by
  refine roundTrips_of_decodes hjson ?_ ?_
  · simp [ConversationEvidenceSnapshot.Decodes, ordersSnapshot, ordersRun, BlockDecodes,
      ItemDecodes, FieldDecodes, Exchange.runToolName]
  · simp [ConversationEvidenceSnapshot.Sourceless, ordersSnapshot, ordersRun, BlockSourceless]

/-- A conversation that another user tries to join, and that goes on with a follow-up. -/
def sharedSession : List (AssistantQueryCommand × QueryDraws) :=
  [questionOf 7 1 1 "Which work orders are open?", questionOf 8 1 2 "What did you answer?",
    questionOf 7 1 3 "When are they due?"]

theorem orderly_sharedSession : OrderlyDraws ordersUseCase (sharedSession.map Prod.snd) where
  turnIds := by decide +kernel
  turnTimes := by decide +kernel
  evidenceIds := by decide +kernel
  exchangeIds := by decide +kernel
  unexpired := by decide +kernel

theorem appended_sharedSession : appendedSnapshots (Prog.askedEach (inMemoryPorts ordersAgents)
    (ordersUseCase.programs sharedSession) ({ maxTurnsPerConversation := 20 }, 0)) =
      [ordersSnapshot 7 1 1] := by
  decide +kernel

/-! ## One after another -/

/-- Queries of any users on any conversations, one after another, return and raise the same over
PostgreSQL as over the in-memory store, whatever the ports of the agent do. -/
theorem queries_overBoth (store : ConversationStore) {maxTurns : Int} (hlimit : 12 ≤ maxTurns)
    (useCase : OrchestrateAssistantQuery) (queries : List (AssistantQueryCommand × QueryDraws))
    (horderly : OrderlyDraws useCase (queries.map Prod.snd)) (agents : AgentPorts A) (a : A)
    (hroundTrips : ∀ snapshot ∈ appendedSnapshots (Prog.askedEach (inMemoryPorts agents)
      (useCase.programs queries) ({ maxTurnsPerConversation := maxTurns }, a)),
        RoundTrips store snapshot) :
    ∃ t', CarriedEachOnly (PostgresCarries store agents) (useCase.programs queries) (.empty, a)
      (Prog.answeredEach (inMemoryPorts agents) (useCase.programs queries)
        ({ maxTurnsPerConversation := maxTurns }, a)).1
      (t', (Prog.answeredEach (inMemoryPorts agents) (useCase.programs queries)
        ({ maxTurnsPerConversation := maxTurns }, a)).2.2) := by
  obtain ⟨⟨t', a'⟩, hcarried, hend⟩ :=
    CarriedEach.of_answered (postgres_carriesOut store agents maxTurns)
      (useCase.programs queries) [] (tied_empty store hlimit horderly hroundTrips)
  obtain rfl : _ = a' := hend.agents
  exact ⟨t', hcarried.only (postgres_carriesUniquely store agents)⟩

theorem queries_overBoth_shared :
    ∃ t', CarriedEachOnly (PostgresCarries { py := .ascii, jsonColumn := id } ordersAgents)
      (ordersUseCase.programs sharedSession) (.empty, 0)
      (Prog.answeredEach (inMemoryPorts ordersAgents) (ordersUseCase.programs sharedSession)
        ({ maxTurnsPerConversation := 20 }, 0)).1
      (t', (Prog.answeredEach (inMemoryPorts ordersAgents) (ordersUseCase.programs sharedSession)
        ({ maxTurnsPerConversation := 20 }, 0)).2.2) := by
  refine queries_overBoth _ (by decide)
    ordersUseCase sharedSession orderly_sharedSession ordersAgents 0 ?_
  intro snapshot hsnapshot
  rw [appended_sharedSession] at hsnapshot
  obtain rfl := List.mem_singleton.mp hsnapshot
  exact roundTrips_ordersSnapshot 7 1 1 (by decide +kernel)

end HotAirBalloon.Agent
