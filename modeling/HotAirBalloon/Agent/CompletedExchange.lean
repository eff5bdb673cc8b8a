import HotAirBalloon.Agent.Grounding
import HotAirBalloon.Evidence.Size
import HotAirBalloon.Gateway.Runtime
import HotAirBalloon.Gateway.RateLimit
import HotAirBalloon.Gateway.WebSearch
import HotAirBalloon.Memory.ExchangeAlone
import HotAirBalloon.Operations.ReadAdapters

/-!
# The end of a query

`OrchestrateAssistantQuery.execute` of `application/use_cases.py`, after the orchestrator has
returned: the evidence of the run becomes a snapshot, the exchange is appended, and the response is
built. The telemetry has no part in the outcome and is left out; drawn ids and times are arguments.

Tools and their adapters put no bound on the evidence of a run, and nobody checks one before
`to_json` does, inside the transaction that stores the exchange. `exchangeStored_iff` says which
runs are stored, by counting the texts of their evidence.
-/

namespace HotAirBalloon.Agent

open Python Kernel Library Gateway Evidence Memory User

def OrchestrationFinishReason.value : OrchestrationFinishReason → String
  | completed => "completed"
  | toolLimitReached => "tool_limit_reached"
  | policyBlocked => "policy_blocked"
  | failed => "failed"

structure AssistantToolCallTrace where
  toolName : String
  payload : Payload
  result : Payload

structure AssistantQueryResponse where
  answer : String
  conversationId : Uuid
  agentName : String
  modelName : String
  finishReason : String
  toolCalls : List AssistantToolCallTrace

/-- `_tool_invoker`: the calls of a run go through the gateway. -/
def toolInvoker {W L : Type} (runtime : GatewayToolRuntime W L) (ctx : AuthorizationContext)
    (conversationId : Uuid) : ToolInvoker (GatewayState W L) := fun toolName payload s =>
  let (outcome, s) := exec (runtime.gateway.invoke toolName payload ctx (some conversationId)) s
  (s, outcome)

/-- What an exchange has besides the result of its run. -/
structure Exchange where
  conversationId : Uuid
  ownerUserId : Uuid
  query : String
  userTurnCreatedAt : DateTime
  answeredAt : DateTime
  userTurnId : Uuid
  assistantTurnId : Uuid
  evidenceId : Uuid
  exchangeId : Uuid
  evidenceRetentionDays : Int := 90

namespace Exchange

variable (exchange : Exchange) (run : AgentRunResult)

def runToolName : String := "assistant.run"

/-- The snapshot of the run's evidence, if there is any. -/
def snapshot : Option ConversationEvidenceSnapshot :=
  if run.evidence.isEmpty then none
  else some {
    conversationId := exchange.conversationId
    ownerUserId := exchange.ownerUserId
    exchangeId := exchange.exchangeId
    toolName := runToolName
    evidence := run.evidence
    createdAtUtc := exchange.userTurnCreatedAt
    expiresAtUtc :=
      some (exchange.userTurnCreatedAt + DateTime.days exchange.evidenceRetentionDays) }

def userTurn : ConversationTurn := ⟨"user", exchange.query, exchange.userTurnCreatedAt⟩

def assistantTurn : ConversationTurn := ⟨"assistant", run.answer, exchange.answeredAt⟩

def response : AssistantQueryResponse where
  answer := run.answer
  conversationId := exchange.conversationId
  agentName := run.agentName
  modelName := run.modelName
  finishReason := run.finishReason.value
  toolCalls := run.toolCalls.map fun item => ⟨item.toolName, item.payload, item.result⟩

/-- The rest of `execute`. -/
def finish (store : ConversationStore) : Action AssistantQueryResponse := do
  store.appendCompletedExchange exchange.conversationId exchange.ownerUserId exchange.userTurn
    (exchange.assistantTurn run) (exchange.snapshot run) exchange.userTurnId
    exchange.assistantTurnId exchange.evidenceId
  return exchange.response run

end Exchange

/-- The exchange of a run is stored and answered: `to_json` accepts the snapshot, and over the
committed rows `t` the query ends with the response, and with both turns and the evidence
committed. -/
structure ExchangeStored (store : ConversationStore) (exchange : Exchange) (t : Tables)
    (run : AgentRunResult) : Prop where
  accepted : ∀ snapshot, exchange.snapshot run = some snapshot →
    ∃ payload, snapshot.toJson store.py = .ok payload
  answered : ∃ t',
    RunsAlone () t t (exchange.finish run store) (.ok (exchange.response run)) t' t' ∧
    store.turnRecord exchange.userTurnId exchange.conversationId exchange.ownerUserId
      exchange.userTurn ∈ t'.turns ∧
    store.turnRecord exchange.assistantTurnId exchange.conversationId exchange.ownerUserId
      (exchange.assistantTurn run) ∈ t'.turns ∧
    ∀ snapshot, exchange.snapshot run = some snapshot →
      ∃ row ∈ t'.evidence, row.exchangeId = snapshot.exchangeId

/-- The integers of the evidence have decimal texts, and its texts fit. -/
def EvidenceFits (py : Interpreter) (evidence : List EvidenceBlock) : Prop :=
  (∀ block ∈ evidence, BlockWritable block) ∧
    snapshotSize py Exchange.runToolName evidence ≤ maxSerializedEvidenceBytes

section

variable {store : ConversationStore} {exchange : Exchange} {t : Tables} {run : AgentRunResult}

theorem Exchange.snapshot_eq_some {snapshot : ConversationEvidenceSnapshot}
    (h : exchange.snapshot run = some snapshot) :
    run.evidence ≠ [] ∧ snapshot.conversationId = exchange.conversationId ∧
      snapshot.ownerUserId = exchange.ownerUserId ∧ snapshot.exchangeId = exchange.exchangeId ∧
      snapshot.toolName = runToolName ∧ snapshot.evidence = run.evidence ∧
      snapshot.schemaVersion = evidenceSchemaVersion := by
  unfold Exchange.snapshot at h
  split at h
  · cases h
  · rename_i hne
    cases h
    exact ⟨fun hnil => hne (by rw [hnil]; rfl), rfl, rfl, rfl, rfl, rfl, rfl⟩

/-- `to_json` accepts the snapshot of evidence that fits, and no other. -/
theorem Exchange.toJson_iff {snapshot : ConversationEvidenceSnapshot}
    (h : exchange.snapshot run = some snapshot) :
    (∃ payload, snapshot.toJson store.py = .ok payload) ↔ EvidenceFits store.py run.evidence := by
  obtain ⟨-, -, -, -, htool, hevidence, hversion⟩ := Exchange.snapshot_eq_some h
  rw [toJson_isOk_iff store.py snapshot hversion, htool, hevidence]
  rfl

/-- No evidence fits. -/
theorem evidenceFits_nil (py : Interpreter) : EvidenceFits py [] := by
  refine ⟨fun block hblock => (List.not_mem_nil hblock).elim, ?_⟩
  have htool : Json.textSize Exchange.runToolName = 13 := by decide
  unfold snapshotSize
  rw [htool, List.map_nil]
  decide

theorem evidenceFits_of_accepted (h : ∀ snapshot, exchange.snapshot run = some snapshot →
    ∃ payload, snapshot.toJson store.py = .ok payload) : EvidenceFits store.py run.evidence := by
  cases hsnapshot : exchange.snapshot run with
  | some snapshot => exact (Exchange.toJson_iff hsnapshot).mp (h snapshot hsnapshot)
  | none =>
    have hempty : run.evidence = [] := by
      unfold Exchange.snapshot at hsnapshot
      split at hsnapshot
      · rename_i h
        exact List.isEmpty_iff.mp h
      · cases hsnapshot
    rw [hempty]
    exact evidenceFits_nil store.py

/-- What the store makes of an accepted snapshot. -/
theorem evidenceRecord?_of_accepted (h : ∀ snapshot, exchange.snapshot run = some snapshot →
    ∃ payload, snapshot.toJson store.py = .ok payload) :
    ∃ record, store.evidenceRecord? exchange.evidenceId (exchange.snapshot run) = .ok record ∧
      (∀ row, record = some row → row.fits = true ∧ row.id = exchange.evidenceId ∧
        row.exchangeId = exchange.exchangeId ∧ row.conversationId = exchange.conversationId ∧
        row.ownerUserId = exchange.ownerUserId) ∧
      ((exchange.snapshot run).isSome → record.isSome) := by
  cases hsnapshot : exchange.snapshot run with
  | none =>
    refine ⟨none, rfl, ?_, fun hsome => hsome⟩
    intro row hrow
    cases hrow
  | some snapshot =>
    obtain ⟨payload, hpayload⟩ := h snapshot hsnapshot
    obtain ⟨-, hconversation, howner, hexchange, htool, -, -⟩ :=
      Exchange.snapshot_eq_some hsnapshot
    have hrecord : store.evidenceRecord? exchange.evidenceId (some snapshot) = .ok (some {
        id := exchange.evidenceId
        conversationId := snapshot.conversationId
        ownerUserId := snapshot.ownerUserId
        exchangeId := snapshot.exchangeId
        toolName := snapshot.toolName
        schemaVersion := snapshot.schemaVersion
        evidenceJson := store.jsonColumn payload
        createdAt := snapshot.createdAtUtc
        expiresAt := snapshot.expiresAtUtc }) := by
      unfold ConversationStore.evidenceRecord? ConversationStore.evidenceRecord
      dsimp only
      rw [hpayload]
      rfl
    refine ⟨_, hrecord, ?_, fun _ => rfl⟩
    intro row hrow
    cases hrow
    have hwidth : Exchange.runToolName.length ≤ 128 := by decide
    rw [← htool] at hwidth
    exact ⟨decide_eq_true hwidth, rfl, hexchange, hconversation, howner⟩

/-- A run with evidence that fits is stored, whatever its evidence is. -/
theorem exchangeStored_of_fits (howned : Owned exchange.conversationId exchange.ownerUserId t)
    (hfresh : FreshExchange exchange.userTurnId exchange.assistantTurnId exchange.evidenceId
      exchange.exchangeId t) (hfits : EvidenceFits store.py run.evidence) :
    ExchangeStored store exchange t run := by
  have haccepted : ∀ snapshot, exchange.snapshot run = some snapshot →
      ∃ payload, snapshot.toJson store.py = .ok payload :=
    fun snapshot hsnapshot => (Exchange.toJson_iff hsnapshot).mpr hfits
  obtain ⟨record, hrecord, hmatches, hsome⟩ := evidenceRecord?_of_accepted haccepted
  obtain ⟨t', hrun, huser, hassistant, hrows⟩ : ∃ t', RunsAlone () t t
      (store.appendCompletedExchange exchange.conversationId exchange.ownerUserId exchange.userTurn
        (exchange.assistantTurn run) (exchange.snapshot run) exchange.userTurnId
        exchange.assistantTurnId exchange.evidenceId) (.ok ()) t' t' ∧ _ :=
    appendCompletedExchange_runs howned hfresh rfl rfl hrecord hmatches
  refine ⟨haccepted, t', hrun.bind (RunsAlone.pure _), huser, hassistant, ?_⟩
  intro snapshot hsnapshot
  obtain ⟨row, rfl⟩ := Option.isSome_iff_exists.mp (hsome (by rw [hsnapshot]; rfl))
  obtain ⟨-, -, -, hexchange, -, -, -⟩ := Exchange.snapshot_eq_some hsnapshot
  exact ⟨row, hrows row rfl, by rw [(hmatches row rfl).2.2.1, hexchange]⟩

end

/-- A completed run is stored and answered if and only if its evidence fits. -/
theorem exchangeStored_iff {B W : Type} (store : ConversationStore) (exchange : Exchange)
    (t : Tables) (howned : Owned exchange.conversationId exchange.ownerUserId t)
    (hfresh : FreshExchange exchange.userTurnId exchange.assistantTurnId exchange.evidenceId
      exchange.exchangeId t)
    (ctx : GraphContext B W) (policy : ToolCallPolicy) (checkpoint : Checkpoint)
    (maxToolCalls : Int) (allowToolCalls : Bool) (brain : B) (world : W) (recursionLimit : Nat)
    (modelName : String) :
    ∀ final, ainvoke store.py ctx policy checkpoint maxToolCalls allowToolCalls brain world
      recursionLimit = .finished final →
      (ExchangeStored store exchange t (agentRunResult modelName final.state) ↔
        EvidenceFits store.py (agentRunResult modelName final.state).evidence) := by
  intro final _
  constructor
  · intro hstored
    exact evidenceFits_of_accepted hstored.accepted
  · intro hfits
    exact exchangeStored_of_fits howned hfresh hfits

/-! ## A plant with many assets -/

open Operations

/-- A registry of the five read tools. -/
def readRegistry : ToolRegistry OperationsDb :=
  ⟨(readTools .ascii strictPydantic).map (fun registration =>
    (registration.definition.name, registration)), by simp⟩

def readRuntime : GatewayToolRuntime OperationsDb FixedWindowRateLimiter where
  registry := readRegistry
  rateLimiter := FixedWindowRateLimiter.tryConsume

/-- The tool for the status of the assets reports each of them. -/
theorem assetStatus_call (db : OperationsDb) (conversationId : Uuid) :
    ∃ record block, (toolInvoker readRuntime administrator conversationId "get_asset_status" []
        ⟨db, .new 0, []⟩).2 = .ok record ∧ record.toolName = "get_asset_status" ∧
      record.evidence = [.collection block] ∧ block.items.length = db.assets.length := by
  have hvalid : ∀ row ∈ getAssetStatus db none,
      assetStatusItem.modelValidate strictPydantic row = .ok row :=
    rows_valid (assetRow_valid strictPydantic) (fun record hrecord => mem_of_mem_orderBy hrecord)
  have hlength : (getAssetStatus db none).length = db.assets.length := by
    unfold getAssetStatus
    rw [List.length_map]
    exact List.length_mergeSort db.assets
  have hsucceeds : HandlerSucceeds readRuntime.gateway "get_asset_status" [] administrator
      (some conversationId) ⟨db, .new 0, []⟩ (buildGetAssetStatusTool .ascii strictPydantic)
      (GetAssetStatusInput.dump ⟨none⟩)
      (getAssetStatusOutput.dump (getAssetStatus db none)) := by
    refine ⟨rfl, ?_, rfl, ?_⟩
    · intro rateLimit tryConsume hlimit hlimiter
      cases hlimit
      cases hlimiter
      rfl
    · change getAssetStatusOutput.ofRows strictPydantic (getAssetStatus db none) = _
      have hrows : (getAssetStatus db none).mapM
          (getAssetStatusOutput.item.modelValidate strictPydantic) =
            .ok (getAssetStatus db none) := mapM_of_self hvalid
      unfold OutputModel.ofRows
      rw [hrows]
      rfl
  have houtput : getAssetStatusOutput.modelValidate strictPydantic
      (getAssetStatusOutput.dump (getAssetStatus db none)) =
        .ok (getAssetStatusOutput.dump (getAssetStatus db none)) :=
    OutputModel.modelValidate_dump (by decide) hvalid
  obtain ⟨s', hexec⟩ := hsucceeds.exec_eq rfl houtput
  obtain ⟨block, hevidence, hitems⟩ : ∃ block, assetsAdapter.toEvidence .ascii
      (GetAssetStatusInput.dump ⟨none⟩) (getAssetStatusOutput.dump (getAssetStatus db none)) =
        .ok [.collection block] ∧ block.items.length = (getAssetStatus db none).length :=
    CollectionResultAdapter.toEvidence_ok (assets_adaptable db ⟨none⟩) rfl
  have hadapter : (buildGetAssetStatusTool .ascii strictPydantic).resultAdapter
      (GetAssetStatusInput.dump ⟨none⟩) (getAssetStatusOutput.dump (getAssetStatus db none)) =
        .ok [.collection block] := hevidence
  unfold toolInvoker
  dsimp only
  rw [hexec]
  unfold adaptResult
  rw [hadapter]
  exact ⟨_, block, rfl, rfl, rfl, hitems.trans hlength⟩

/-! ### A question about the assets -/

def statusQuery : String := "Show the status of the assets"

def statusDescriptor : ToolDescriptor :=
  { name := "get_asset_status", siteCodeField := some "site_code" }

/-- A context for the question. The brain leaves the answer to the composer. -/
def statusContext {W : Type} (invoker : ToolInvoker W) : GraphContext Unit W :=
  FinalResponseComposer.context ⟨.ascii, fun text => text⟩ {
    brain := {
      classifyIntent := fun _ b => (b, .ok "asset_status")
      planAction := fun _ b => (b, .ok respondAction)
      respond := fun _ b => (b, .ok "") }
    availableTools := [statusDescriptor]
    toolInvoker := invoker
    contextPrompt := ""
    userQuery := statusQuery
    composeAnswer := fun _ _ => .ok "" }

def statusPolicy : ToolCallPolicy := { allowedToolNames := ["get_asset_status"] }

def statusResolution : IntentResolution := ⟨.getAssetStatus, some "get_asset_status", []⟩

theorem resolveIntent_statusQuery :
    resolveIntent .ascii statusQuery = .ok (some statusResolution) := by
  have hresolves : (resolveIntent .ascii statusQuery).toOption.join.any (fun resolution =>
      decide (resolution.intent = .getAssetStatus) &&
        decide (resolution.toolName = some "get_asset_status") && resolution.payload.isEmpty) =
            true := by
    decide
  obtain ⟨⟨intent, toolName, payload⟩, hresolve, hfields⟩ := resolution_of_any hresolves
  simp only [Bool.and_eq_true, decide_eq_true_eq, List.isEmpty_iff] at hfields
  obtain ⟨⟨rfl, rfl⟩, rfl⟩ := hfields
  exact hresolve

theorem validate_statusQuery :
    validateToolCallSemantics .ascii statusQuery statusDescriptor [] = .ok allow := by
  unfold validateToolCallSemantics
  rw [resolveIntent_statusQuery]
  rfl

def statusAction : PlannedAction where
  action := "tool_call"
  toolName := "get_asset_status"
  payload := []

section

variable {W : Type} {invoker : ToolInvoker W} {run : RunState Unit W}

/-- A run that has made no call of the one that it may make. -/
structure Asking (run : RunState Unit W) : Prop where
  finishReason : run.state.finishReason = none
  toolCalls : run.state.toolCalls = []
  callBudget : run.callBudget = { remainingCalls := 1, maxCallsPerTool := 1 }

theorem Asking.canCall (h : Asking run) (toolName : String) :
    run.callBudget.canCall toolName = true := by
  rw [h.callBudget]
  rfl

theorem Asking.entering (h : Asking run) (node : Node) : Asking (run.entering node) :=
  ⟨h.finishReason, h.toolCalls, h.callBudget⟩

/-- The plan is the resolved call. -/
theorem status_plan (h : Asking run) :
    ∃ run', runNode .ascii (statusContext invoker) .planAction run = (run', .ok (some .toolCall)) ∧
      Asking run' ∧ run'.state.plannedAction = statusAction ∧ run'.world = run.world := by
  have hquery : (statusContext invoker).userQuery = statusQuery := rfl
  have hcallable : callableTools (statusContext invoker) run = [statusDescriptor] := by
    change List.filter _ [statusDescriptor] = _
    rw [List.filter_singleton, h.canCall]
    rfl
  change ∃ run', planAction .ascii (statusContext invoker) run = _ ∧ _
  unfold planAction
  rw [hquery, resolveIntent_statusQuery]
  change ∃ run', planResolved (statusContext invoker) run statusResolution = _ ∧ _
  unfold planResolved
  rw [hcallable]
  exact ⟨_, rfl, ⟨h.finishReason, h.toolCalls, h.callBudget⟩, rfl, rfl⟩

theorem callTool_of_ok {ctx : GraphContext Unit W} {toolName : String} {payload : Payload}
    {world' : W} {record : ToolCallRecord}
    (hcall : ctx.toolInvoker toolName payload run.world = (world', .ok record))
    (hname : record.toolName = toolName) :
    callTool ctx run toolName payload =
      ({ run with
          state := { run.state with pendingCall := some record }
          world := world', invocations := run.invocations ++ [(toolName, payload)] },
        .ok (some .observeResult)) := by
  unfold callTool
  rw [hcall]
  exact if_neg (not_not_intro hname)

/-- The call is made, and its record is pending. -/
theorem status_toolCall {world' : W} {record : ToolCallRecord} (h : Asking run)
    (haction : run.state.plannedAction = statusAction)
    (hcall : invoker "get_asset_status" [] run.world = (world', .ok record))
    (hname : record.toolName = "get_asset_status") :
    ∃ run',
      runNode .ascii (statusContext invoker) .toolCall run = (run', .ok (some .observeResult)) ∧
      Asking run' ∧ run'.state.pendingCall = some record := by
  have hquery : (statusContext invoker).userQuery = statusQuery := rfl
  have hfind :
      findDescriptor (statusContext invoker) statusAction.toolName = some statusDescriptor := rfl
  have hpayload : statusAction.payload = [] := rfl
  change ∃ run', invokeTool .ascii (statusContext invoker) run = _ ∧ _
  unfold invokeTool
  rw [haction]
  dsimp only
  rw [hfind, h.canCall, hquery, hpayload]
  dsimp only
  rw [validate_statusQuery]
  dsimp only
  rw [if_neg (by decide)]
  exact ⟨_, callTool_of_ok hcall hname, ⟨h.finishReason, h.toolCalls, h.callBudget⟩, rfl⟩

end

/-- From a node on the run finishes with the record. -/
def FinishesWith {W : Type} (invoker : ToolInvoker W) (record : ToolCallRecord) (limit : Nat)
    (node : Node) (run : RunState Unit W) : Prop :=
  ∃ final, runFor .ascii (statusContext invoker) limit node run = .finished final ∧
    final.state.toolCalls = [record]

section

variable {W : Type} {invoker : ToolInvoker W} {record : ToolCallRecord} {limit : Nat}
  {run run' : RunState Unit W}

theorem FinishesWith.of_next {node next : Node}
    (h : runNode .ascii (statusContext invoker) node (run.entering node) = (run', .ok (some next)))
    (hrest : FinishesWith invoker record limit next run') :
    FinishesWith invoker record (limit + 1) node run := by
  unfold FinishesWith
  rw [runFor_succ, h]
  exact hrest

/-- The composer answers from the record. -/
theorem finishesWith_respond (hopen : run.state.finishReason = none)
    (hcalls : run.state.toolCalls = [record]) (hevidence : record.evidence ≠ []) :
    FinishesWith invoker record (limit + 1) .respond run := by
  have hcompose : ∃ answer, (statusContext invoker).composeAnswer statusQuery
      ((run.entering .respond).state.toolCalls.flatMap (·.evidence)) = .ok answer := by
    refine ⟨_, if_neg ?_⟩
    change ¬ (run.state.toolCalls.flatMap (·.evidence)).isEmpty = true
    rw [hcalls, List.flatMap_singleton, List.isEmpty_iff]
    exact hevidence
  obtain ⟨answer, hanswer⟩ := hcompose
  have hrespond : respond (statusContext invoker) (run.entering .respond) =
      finishAnswer (statusContext invoker) (run.entering .respond) answer := by
    unfold respond
    rw [if_neg (by simp [RunState.entering, hopen]), if_pos (by simp [RunState.entering, hcalls])]
    rw [show (statusContext invoker).userQuery = statusQuery from rfl, hanswer]
  unfold FinishesWith
  rw [runFor_succ]
  change ∃ final, resume _ _ _ (respond (statusContext invoker) (run.entering .respond)) = _ ∧ _
  rw [hrespond]
  exact ⟨_, rfl, hcalls⟩

/-- A recorded call uses up the budget. -/
theorem finishesWith_observe (h : Asking run) (hpending : run.state.pendingCall = some record)
    (hevidence : record.evidence ≠ []) :
    FinishesWith invoker record (limit + 3) .observeResult run := by
  obtain ⟨hopen, hcalls, hbudget⟩ := h
  have hrecord : run.callBudget.record record.toolName = .ok {
      remainingCalls := 0, maxCallsPerTool := 1, totalCalls := 1
      perToolCalls := [(record.toolName, 1)] } := by
    rw [hbudget]
    rfl
  have hobserve : ∃ run', runNode .ascii (statusContext invoker) .observeResult
      (run.entering .observeResult) = (run', .ok (some .decideNextStep)) ∧
      run'.state.finishReason = none ∧ run'.state.toolCalls = [record] ∧
      run'.callBudget.remainingCalls = 0 := by
    change ∃ run', observeResult (run.entering .observeResult) = _ ∧ _
    unfold observeResult
    simp only [RunState.entering, hpending, hrecord, hcalls]
    exact ⟨_, rfl, hopen, rfl, rfl⟩
  obtain ⟨run', hnode, hopen', hcalls', hremaining⟩ := hobserve
  have hdecide : runNode .ascii (statusContext invoker) .decideNextStep
      (run'.entering .decideNextStep) = (run'.entering .decideNextStep, .ok (some .respond)) := by
    change decideNextStep (run'.entering .decideNextStep) = _
    unfold decideNextStep
    rw [show (run'.entering .decideNextStep).callBudget.remainingCalls = 0 from hremaining]
    rfl
  apply FinishesWith.of_next hnode
  apply FinishesWith.of_next hdecide
  exact finishesWith_respond hopen' hcalls' hevidence

/-- Planning, the call and the record of its result. -/
theorem finishesWith_plan {world' : W} (h : Asking run)
    (hcall : invoker "get_asset_status" [] run.world = (world', .ok record))
    (hname : record.toolName = "get_asset_status") (hevidence : record.evidence ≠ []) :
    FinishesWith invoker record (limit + 5) .planAction run := by
  obtain ⟨planned, hplan, hasking, haction, hworld⟩ :=
    @status_plan W invoker (run.entering .planAction) (h.entering _)
  have hcall' : invoker "get_asset_status" [] (planned.entering .toolCall).world =
      (world', .ok record) := by
    rw [← hcall]
    exact congrArg _ hworld
  obtain ⟨called, htool, hasking', hpending⟩ :=
    status_toolCall (hasking.entering .toolCall) haction hcall' hname
  apply FinishesWith.of_next hplan
  apply FinishesWith.of_next htool
  exact finishesWith_observe hasking' hpending hevidence

end

/-- The run asks for the status once, and finishes with the record. -/
theorem status_run {W : Type} {invoker : ToolInvoker W} {world world' : W} {record : ToolCallRecord}
    (hcall : invoker "get_asset_status" [] world = (world', .ok record))
    (hname : record.toolName = "get_asset_status") (hevidence : record.evidence ≠ []) :
    ∃ final, ainvoke .ascii (statusContext invoker) statusPolicy {} 1 true () world 25 =
      .finished final ∧ final.state.toolCalls = [record] := by
  have hcontext : { statusContext invoker with
      availableTools := allowedTools statusPolicy (statusContext invoker).availableTools } =
        statusContext invoker := rfl
  unfold ainvoke
  rw [hcontext]
  change FinishesWith invoker record 25 .classifyIntent (initialRun {} statusPolicy 1 true () world)
  apply FinishesWith.of_next rfl
  exact finishesWith_plan ⟨rfl, rfl, rfl⟩ hcall hname hevidence

/-! ### The question and its exchange -/

/-- The conversation of the administrator, as claiming it has left it. -/
def statusTables : Tables where
  conversations := Table.empty.put ⟨.ofNat 5, administrator.userId, 0, 0, 0, none, none⟩
  turns := .empty
  evidence := .empty
  memories := .empty
  candidates := .empty

def statusStore : ConversationStore := ⟨.ascii, fun payload => payload, 90⟩

def statusExchange : Exchange where
  conversationId := .ofNat 5
  ownerUserId := administrator.userId
  query := statusQuery
  userTurnCreatedAt := 0
  answeredAt := 1
  userTurnId := .ofNat 100
  assistantTurnId := .ofNat 101
  evidenceId := .ofNat 102
  exchangeId := .ofNat 103

theorem statusTables_owned :
    Owned statusExchange.conversationId statusExchange.ownerUserId statusTables :=
  ⟨⟨.ofNat 5, administrator.userId, 0, 0, 0, none, none⟩, by decide, rfl⟩

theorem statusTables_fresh : FreshExchange statusExchange.userTurnId statusExchange.assistantTurnId
    statusExchange.evidenceId statusExchange.exchangeId statusTables where
  userTurn := rfl
  assistantTurn := rfl
  turns_ne := by decide
  evidence := rfl
  exchange row hrow := absurd hrow (Table.not_mem_empty row)

def statusRun (db : OperationsDb) :
    Progress Unit (GatewayState OperationsDb FixedWindowRateLimiter) :=
  ainvoke .ascii
    (statusContext (toolInvoker readRuntime administrator statusExchange.conversationId))
    statusPolicy {} 1 true () ⟨db, .new 0, []⟩ 25

/-- Over any database the run reports the assets. -/
theorem statusRun_evidence (db : OperationsDb) : ∃ final block, statusRun db = .finished final ∧
    (agentRunResult "model" final.state).evidence = [.collection block] ∧
    block.items.length = db.assets.length := by
  obtain ⟨record, block, hcall, hname, hevidence, hlength⟩ :=
    assetStatus_call db statusExchange.conversationId
  obtain ⟨final, hfinished, hcalls⟩ := status_run (Prod.ext rfl hcall) hname (by simp [hevidence])
  refine ⟨final, block, hfinished, ?_, hlength⟩
  change final.state.toolCalls.flatMap (·.evidence) = _
  rw [hcalls, List.flatMap_singleton, hevidence]

/-- A running pump of the first plant. -/
def fleetAsset (n : Nat) : AssetRecord where
  id := Uuid.ofNat n
  siteId := plant1.id
  code := toString n
  name := "Pump"
  category := "machine"
  criticality := "medium"
  status := "running"

theorem fleetIds_nodup : (((List.range 2300).map fleetAsset).map (·.id)).Nodup := by
  rw [List.map_map]
  refine List.Nodup.map_on ?_ List.nodup_range
  intro m hm n hn heq
  rw [List.mem_range] at hm hn
  have hval : (Uuid.ofNat m).int.val = (Uuid.ofNat n).int.val := congrArg (·.int.val) heq
  change m % 2 ^ 128 = n % 2 ^ 128 at hval
  omega

/-- A site with 2300 assets. -/
def fleetDb : OperationsDb where
  sites := [plant1]
  assets := (List.range 2300).map fleetAsset
  workOrders := []
  spareParts := []
  collation := fun a b => decide (a ≤ b)
  siteIds_nodup := by simp
  assetIds_nodup := fleetIds_nodup
  assetSites := by simp [fleetAsset]
  workOrderSites := by simp
  workOrderAssets := by simp
  sparePartSites := by simp

/-- The assets of a large site are too many for the evidence of one exchange. -/
theorem fleet_not_stored : ∃ final, statusRun fleetDb = .finished final ∧
    ¬ ExchangeStored statusStore statusExchange statusTables
      (agentRunResult "model" final.state) := by
  obtain ⟨final, block, hfinished, hevidence, hlength⟩ := statusRun_evidence fleetDb
  refine ⟨final, hfinished, ?_⟩
  intro hstored
  obtain ⟨-, hsize⟩ := evidenceFits_of_accepted hstored.accepted
  rw [hevidence] at hsize
  have hmany : 56 * block.items.length ≤ maxSerializedEvidenceBytes :=
    (le_snapshotSize_collection statusStore.py Exchange.runToolName block).trans hsize
  have hcount : fleetDb.assets.length = 2300 := by
    unfold fleetDb
    rw [List.length_map, List.length_range]
  rw [hlength, hcount] at hmany
  exact absurd hmany (by decide)

/-- The status of one asset is stored. -/
theorem exchangeStored_iff_status : ∃ final, statusRun (crossSiteDb "PUMP-1") = .finished final ∧
    (ExchangeStored statusStore statusExchange statusTables (agentRunResult "model" final.state) ↔
      EvidenceFits statusStore.py (agentRunResult "model" final.state).evidence) := by
  obtain ⟨final, -, hfinished, -, -⟩ := statusRun_evidence (crossSiteDb "PUMP-1")
  refine ⟨final, hfinished, ?_⟩
  exact exchangeStored_iff statusStore statusExchange statusTables statusTables_owned
    statusTables_fresh
    (statusContext (toolInvoker readRuntime administrator statusExchange.conversationId))
    statusPolicy {} 1 true () ⟨crossSiteDb "PUMP-1", .new 0, []⟩ 25 "model" final hfinished

end HotAirBalloon.Agent
