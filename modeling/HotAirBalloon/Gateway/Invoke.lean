import HotAirBalloon.Gateway.Domain

/-!
# The tool gateway

`ToolGateway.invoke` of `tool_gateway/gateway.py`. The state of an invocation is the world
the handlers act on, the rate limiter's state and a log: every audit record and trace event
in the order in which the sinks receive them, and every call of a handler with what came of
it. The sinks do not raise.

The stages of `invoke` are definitions of their own, in the order of the source: site scope,
input validation, permission, rate limit, approval, handler attempts, result adaptation.
-/

namespace HotAirBalloon.Gateway

open Python Kernel User

inductive GatewayEvent where
  | audit (record : ToolAuditRecord)
  | trace (event : ToolTraceEvent)
  | handlerCalled (payload : Payload) (outcome : Except PyError Payload)

structure GatewayState (W L : Type) where
  world : W
  limiter : L
  log : List GatewayEvent

structure ToolGateway (W L : Type) where
  registry : ToolRegistry W
  permissionChecker : PermissionChecker
  approvalService : Option ApprovalService
  rateLimiter : Option (RateLimiterPort L) := none

abbrev GatewayM (W L : Type) := ExceptT PyError (StateM (GatewayState W L))

variable {W L : Type}

def emit (event : GatewayEvent) : GatewayM W L Unit :=
  modify (fun s => { s with log := s.log ++ [event] })

/-- `await tool.handler(payload)`. -/
def callHandler (tool : ToolDefinition W) (payload : Payload) :
    GatewayM W L (Except PyError Payload) := do
  let s ← get
  let (world, outcome) := tool.handler payload s.world
  set { s with world := world, log := s.log ++ [GatewayEvent.handlerCalled payload outcome] }
  return outcome

/-- A pure stage of the invocation. -/
def liftExcept {α : Type} : Except PyError α → GatewayM W L α
  | .ok a => pure a
  | .error e => throw e

/-! ## Site scope and validation -/

/-- The payload with the actor's only site filled in, or the reason of a denial. -/
def siteScope (tool : ToolDefinition W) (ctx : AuthorizationContext) (payload : Payload) :
    Except String Payload :=
  match tool.siteCodeField with
  | none => .ok payload
  | some field =>
    if ctx.globalScope then .ok payload
    else
      match payload.get? field with
      | some requested =>
        if requested.isNone then fillIn field else .ok payload
      | none => fillIn field
where
  fillIn (field : String) : Except String Payload :=
    match ctx.siteCodes with
    | [site] => .ok (payload.set field (.str site))
    | [] => .error "site scope required: actor has no authorized sites"
    | _ => .error "site scope required: actor has multiple authorized sites"

/-- The site of a validated payload. -/
def siteCodeOf (tool : ToolDefinition W) (validated : Payload) : Except PyError (Option String) :=
  match tool.siteCodeField with
  | none => .ok none
  | some field =>
    match validated.get? field with
    | none => .ok none
    | some .none => .ok none
    | some (.str code) => .ok (some code)
    | some _ => .error (PyError.typeError (field ++ " must be a string when present"))

/-! ## Approval -/

/-- The approval decision and the reason that goes into the audit record. -/
def approval (gateway : ToolGateway W L) (tool : ToolDefinition W) (actor : String)
    (validated : Payload) : Except PyError (ToolApprovalDecision × Option String) :=
  if tool.requiresApproval then
    match gateway.approvalService with
    | none => .ok (.approvalRequired, some "approval service not configured")
    | some evaluate =>
      match evaluate tool.name (some actor) validated with
      | .error e => .error e
      | .ok .approved => .ok (.approved, none)
      | .ok decision => .ok (decision, some "approval required")
  else .ok (.approved, none)

/-! ## Attempts -/

/-- The payload of the trace event that closes the attempts. -/
def attemptsPayload (attempts : Nat) : Payload := [("attempts", .int attempts)]

/-- The handler's outcome after validation by the output model. -/
def checkedOutput (tool : ToolDefinition W) (outcome : Except PyError Payload) :
    Except PyError Payload :=
  outcome.bind tool.outputModel

/-- The `while True` loop after `attempts` failed attempts, with `retries` left. It returns
the validated output and the number of failed attempts before it. -/
def attemptLoop (tool : ToolDefinition W) (actor : String) (conversationId : Option Uuid)
    (payload : Payload) : (retries attempts : Nat) → GatewayM W L (Payload × Nat)
  | retries, attempts => do
    let outcome ← callHandler tool payload
    match checkedOutput tool outcome with
    | .ok result => return (result, attempts)
    | .error e =>
      if !e.isException then throw e
      match retries with
      | 0 =>
        emit (.trace {
          toolName := tool.name, actor := some actor, conversationId := conversationId
          event := "handler_failed", payload := attemptsPayload (attempts + 1) })
        throw e
      | retries + 1 => attemptLoop tool actor conversationId payload retries (attempts + 1)

/-! ## Result adaptation -/

/-- What follows a successful attempt. -/
def adaptResult (registration : AssistantToolRegistration W) (actor : String)
    (conversationId : Option Uuid) (validated result : Payload) : GatewayM W L ToolCallRecord := do
  let tool := registration.definition
  match registration.resultAdapter validated result with
  | .error e =>
    if e.kind = "EvidenceAdaptationError" then
      emit (.trace {
        toolName := tool.name, actor := some actor, conversationId := conversationId
        event := "result_adaptation_failed", payload := [] })
      return {
        toolName := tool.name
        payload := validated
        status := .failed
        evidence := [.failure {
          evidenceId := tool.name ++ ":failure"
          code := "invalid_tool_result"
          message := "The tool returned an inconsistent result."
          retryable := false }]
        result := [("status", .str "failed")] }
    else throw e
  | .ok evidence =>
    if evidence.isEmpty then throw (PyError.runtimeError (tool.name ++ " produced no evidence"))
    return {
      toolName := tool.name
      payload := validated
      status := .success
      evidence := evidence
      result := [("status", .str "success"), ("applied_payload", .dict validated),
        ("result", .dict result)] }

/-- The audited execution of a validated call: the part of `invoke` after the rate limit. -/
def executeApproved (gateway : ToolGateway W L) (registration : AssistantToolRegistration W)
    (actor : String) (conversationId : Option Uuid) (validated : Payload) :
    GatewayM W L ToolCallRecord := do
  let tool := registration.definition
  let (decision, reason) ← liftExcept (approval gateway tool actor validated)
  emit (.audit {
    toolName := tool.name, actor := some actor, payload := validated, decision := decision
    conversationId := conversationId, reason := reason })
  if decision ≠ .approved then
    emit (.trace {
      toolName := tool.name, actor := some actor, conversationId := conversationId
      event := "approval_blocked", payload := [("decision", .str decision.value)] })
    return {
      toolName := tool.name
      payload := validated
      status := .approvalRequired
      evidence := [.actionRequired {
        evidenceId := tool.name ++ ":approval"
        action := "Obtain approval before executing this action"
        reason := reason.getD "approval required" }]
      result := [("status", .str ToolOutcomeStatus.approvalRequired.value),
        ("decision", .str decision.value)] }
  let (result, attempts) ← attemptLoop tool actor conversationId validated tool.maxRetries 0
  emit (.trace {
    toolName := tool.name, actor := some actor, conversationId := conversationId
    event := "handler_executed", payload := attemptsPayload (attempts + 1) })
  adaptResult registration actor conversationId validated result

/-! ## The invocation -/

/-- The record of a call that the rate limiter refused. -/
def rateLimitedRecord (tool : ToolDefinition W) (validated : Payload) (verdict : RateLimitVerdict) :
    ToolCallRecord where
  toolName := tool.name
  payload := validated
  status := .rateLimited
  evidence := [.failure {
    evidenceId := tool.name ++ ":rate-limit"
    code := "rate_limited"
    message := "Retry after " ++ toString verdict.retryAfterSeconds ++ " seconds."
    retryable := true }]
  result := [("status", .str ToolOutcomeStatus.rateLimited.value),
    ("retry_after_seconds", .int verdict.retryAfterSeconds)]

/-- `try_consume` of the gateway's limiter, when the tool has a limit and the gateway a
limiter: the limit and the verdict. -/
def consumeRate (gateway : ToolGateway W L) (tool : ToolDefinition W) (actor : String) :
    GatewayM W L (Option (ToolRateLimit × RateLimitVerdict)) := do
  match tool.rateLimit, gateway.rateLimiter with
  | some rateLimit, some tryConsume =>
    let s ← get
    let (limiter, verdict) := tryConsume (some actor) tool.name rateLimit s.limiter
    set { s with limiter := limiter }
    return some (rateLimit, verdict)
  | _, _ => return none

/-- `ToolGateway.invoke`. -/
def ToolGateway.invoke (gateway : ToolGateway W L) (toolName : String) (payload : Payload)
    (ctx : AuthorizationContext) (conversationId : Option Uuid) : GatewayM W L ToolCallRecord := do
  match gateway.registry.get toolName with
  | none => throw (PyError.keyError ("unknown tool: " ++ toolName))
  | some registration =>
    let tool := registration.definition
    let actor := ctx.userId.str
    match siteScope tool ctx payload with
    | .error reason =>
      emit (.audit {
        toolName := tool.name, actor := some actor, payload := payload, decision := .rejected
        conversationId := conversationId, reason := some reason })
      emit (.trace {
        toolName := tool.name, actor := some actor, conversationId := conversationId
        event := "site_scope_denied", payload := [("reason", .str reason)] })
      throw (PyError.permissionError ("tool site scope not allowed: " ++ toolName))
    | .ok scopedPayload =>
      let validated ← liftExcept (validateStrictInput tool.inputModel scopedPayload)
      let siteCode ← liftExcept (siteCodeOf tool validated)
      if !gateway.permissionChecker ctx tool.requiredPermission siteCode then
        emit (.audit {
          toolName := tool.name, actor := some actor, payload := validated, decision := .rejected
          conversationId := conversationId
          reason := some ("missing permission: " ++ tool.requiredPermission.value) })
        emit (.trace {
          toolName := tool.name, actor := some actor, conversationId := conversationId
          event := "permission_denied"
          payload := [("required_permission", .str tool.requiredPermission.value)] })
        throw (PyError.permissionError ("tool not allowed: " ++ toolName))
      match ← consumeRate gateway tool actor with
      | some (rateLimit, verdict) =>
        if !verdict.allowed then
          emit (.audit {
            toolName := tool.name, actor := some actor, payload := validated
            decision := .rateLimited, conversationId := conversationId
            reason := some ("rate limit exceeded: " ++ toString rateLimit.maxCalls ++
              " calls per " ++ toString rateLimit.windowSeconds ++ "s") })
          emit (.trace {
            toolName := tool.name, actor := some actor, conversationId := conversationId
            event := "rate_limited"
            payload := [("retry_after_seconds", .int verdict.retryAfterSeconds)] })
          return rateLimitedRecord tool validated verdict
        executeApproved gateway registration actor conversationId validated
      | none => executeApproved gateway registration actor conversationId validated

end HotAirBalloon.Gateway
