import HotAirBalloon.Gateway.Gating

/-!
# The stages of an invocation

`invoke` in two halves. The gates up to the permission look at the call alone: `admission` is what
they let through, or how they refuse. Behind them stand the rate limiter, the approval and the
handler. A handler runs exactly when every gate lets the call through.
-/

namespace HotAirBalloon.Gateway

open Python Kernel User

variable {W L : Type}

/-! ## The gates before the rate limit -/

/-- A refusal that is audited and traced. -/
def refusalEvents (tool : ToolDefinition W) (ctx : AuthorizationContext)
    (conversationId : Option Uuid)
    (payload : Payload) (reason event : String) (detail : Payload) : List GatewayEvent :=
  [.audit {
      toolName := tool.name, actor := some ctx.userId.str, payload := payload, decision := .rejected
      conversationId := conversationId, reason := some reason },
    .trace {
      toolName := tool.name, actor := some ctx.userId.str, conversationId := conversationId
      event := event, payload := detail }]

/-- What the gates before the rate limit let through, or the error and the events of a refusal. -/
def admission (gateway : ToolGateway W L) (toolName : String) (payload : Payload)
    (ctx : AuthorizationContext) (conversationId : Option Uuid) :
    Except (PyError × List GatewayEvent) (AssistantToolRegistration W × Payload) :=
  match gateway.registry.get toolName with
  | none => .error (PyError.keyError ("unknown tool: " ++ toolName), [])
  | some registration =>
    let tool := registration.definition
    match siteScope tool ctx payload with
    | .error reason =>
      .error (PyError.permissionError ("tool site scope not allowed: " ++ toolName),
        refusalEvents tool ctx conversationId payload reason "site_scope_denied"
          [("reason", .str reason)])
    | .ok scopedPayload =>
      match validateStrictInput tool.inputModel scopedPayload with
      | .error e => .error (e, [])
      | .ok validated =>
        match siteCodeOf tool validated with
        | .error e => .error (e, [])
        | .ok siteCode =>
          if gateway.permissionChecker ctx tool.requiredPermission siteCode then
            .ok (registration, validated)
          else .error (PyError.permissionError ("tool not allowed: " ++ toolName),
            refusalEvents tool ctx conversationId validated
              ("missing permission: " ++ tool.requiredPermission.value) "permission_denied"
              [("required_permission", .str tool.requiredPermission.value)])

/-- The rest of `invoke`, from the rate limit on. -/
def limitedCall (gateway : ToolGateway W L) (registration : AssistantToolRegistration W)
    (actor : String) (conversationId : Option Uuid) (validated : Payload) :
    GatewayM W L ToolCallRecord := do
  let tool := registration.definition
  match ← consumeRate gateway tool actor with
  | some (rateLimit, verdict) =>
    if !verdict.allowed then
      emit (.audit {
        toolName := tool.name, actor := some actor, payload := validated
        decision := .rateLimited, conversationId := conversationId
        reason := some ("rate limit exceeded: " ++ toString rateLimit.maxCalls ++
          " calls per " ++ toString rateLimit.windowSeconds ++ "s") })
      emit (.trace {
        toolName := tool.name, actor := some actor, conversationId := conversationId
        event := "rate_limited"
        payload := [("retry_after_seconds", .int verdict.retryAfterSeconds)] })
      return rateLimitedRecord tool validated verdict
    executeApproved gateway registration actor conversationId validated
  | none => executeApproved gateway registration actor conversationId validated

variable {gateway : ToolGateway W L} {toolName : String} {payload : Payload}
  {ctx : AuthorizationContext} {conversationId : Option Uuid}

/-- An invocation is its admission, then the rest. -/
theorem exec_invoke (gateway : ToolGateway W L) (toolName : String) (payload : Payload)
    (ctx : AuthorizationContext) (conversationId : Option Uuid) (s : GatewayState W L) :
    exec (gateway.invoke toolName payload ctx conversationId) s =
      match admission gateway toolName payload ctx conversationId with
      | .error (e, events) => (.error e, { s with log := s.log ++ events })
      | .ok (registration, validated) =>
        exec (limitedCall gateway registration ctx.userId.str conversationId validated) s := by
  unfold ToolGateway.invoke admission
  cases hreg : gateway.registry.get toolName with
  | none => simp [exec_throw]
  | some registration =>
  dsimp only
  cases hscope : siteScope registration.definition ctx payload with
  | error reason => simp [exec_bind, exec_emit, exec_throw, refusalEvents]
  | ok scopedPayload =>
  simp only [exec_bind, exec_liftExcept]
  cases hvalid : validateStrictInput registration.definition.inputModel scopedPayload with
  | error e => simp
  | ok validated =>
  dsimp only
  cases hsite : siteCodeOf registration.definition validated with
  | error e => simp
  | ok siteCode =>
  dsimp only
  cases hperm :
    gateway.permissionChecker ctx registration.definition.requiredPermission siteCode with
  | false => simp [exec_bind, exec_emit, exec_throw, refusalEvents]
  | true =>
    simp only [Bool.not_true, Bool.false_eq_true, if_false, if_true]
    rfl

theorem exec_invoke_of_admitted {registration : AssistantToolRegistration W} {validated : Payload}
    (h : admission gateway toolName payload ctx conversationId = .ok (registration, validated))
    (s : GatewayState W L) :
    exec (gateway.invoke toolName payload ctx conversationId) s =
      exec (limitedCall gateway registration ctx.userId.str conversationId validated) s := by
  rw [exec_invoke, h]

theorem admission_eq_ok_iff {registration : AssistantToolRegistration W} {validated : Payload} :
    admission gateway toolName payload ctx conversationId = .ok (registration, validated) ↔
      gateway.registry.get toolName = some registration ∧
      ∃ scopedPayload siteCode,
        siteScope registration.definition ctx payload = .ok scopedPayload ∧
        validateStrictInput registration.definition.inputModel scopedPayload = .ok validated ∧
        siteCodeOf registration.definition validated = .ok siteCode ∧
        gateway.permissionChecker ctx registration.definition.requiredPermission siteCode =
          true := by
  unfold admission
  constructor
  · intro h
    split at h
    · cases h
    · rename_i registration' hreg
      dsimp only at h
      split at h
      · cases h
      · rename_i scopedPayload hscope
        split at h
        · cases h
        · rename_i validated' hvalid
          split at h
          · cases h
          · rename_i siteCode hsite
            split at h
            · rename_i hperm
              cases h
              exact ⟨hreg, scopedPayload, siteCode, hscope, hvalid, hsite, hperm⟩
            · cases h
  · rintro ⟨hreg, scopedPayload, siteCode, hscope, hvalid, hsite, hperm⟩
    simp [hreg, hscope, hvalid, hsite, hperm]

/-- A refusal calls no handler. -/
theorem handlerPayloads_of_refused {e : PyError} {events : List GatewayEvent}
    (h : admission gateway toolName payload ctx conversationId = .error (e, events)) :
    handlerPayloads events = [] := by
  unfold admission at h
  split at h
  · cases h
    rfl
  · dsimp only at h
    split at h
    · cases h
      rfl
    · split at h
      · cases h
        rfl
      · split at h
        · cases h
          rfl
        · split at h
          · cases h
          · cases h
            rfl

/-! ## The rate limit -/

/-- The limiter lets a call of the tool through, or the tool has no limit. -/
def RateAllowed (gateway : ToolGateway W L) (tool : ToolDefinition W) (actor : String)
    (limiter : L) : Prop :=
  ∀ rateLimit tryConsume, tool.rateLimit = some rateLimit → gateway.rateLimiter = some tryConsume →
    (tryConsume (some actor) tool.name rateLimit limiter).2.allowed = true

/-- The limiter's state after a call of the tool has reached it. -/
def limiterAfter (gateway : ToolGateway W L) (tool : ToolDefinition W) (actor : String)
    (limiter : L) : L :=
  match tool.rateLimit, gateway.rateLimiter with
  | some rateLimit, some tryConsume => (tryConsume (some actor) tool.name rateLimit limiter).1
  | _, _ => limiter

theorem exec_limitedCall_of_allowed {registration : AssistantToolRegistration W} {actor : String}
    {validated : Payload} (s : GatewayState W L)
    (h : RateAllowed gateway registration.definition actor s.limiter) :
    exec (limitedCall gateway registration actor conversationId validated) s =
      exec (executeApproved gateway registration actor conversationId validated)
        { s with limiter := limiterAfter gateway registration.definition actor s.limiter } := by
  unfold limitedCall limiterAfter
  simp only [exec_bind, exec_consumeRate]
  cases hlimit : registration.definition.rateLimit with
  | none => rfl
  | some rateLimit =>
    cases hlimiter : gateway.rateLimiter with
    | none => rfl
    | some tryConsume =>
      dsimp only
      rw [h rateLimit tryConsume hlimit hlimiter]
      rfl

/-- A call that the limiter refuses calls no handler. -/
theorem exec_limitedCall_of_refused {registration : AssistantToolRegistration W} {actor : String}
    {validated : Payload} (s : GatewayState W L)
    (h : ¬ RateAllowed gateway registration.definition actor s.limiter) :
    ∃ record events, exec (limitedCall gateway registration actor conversationId validated) s =
        (.ok record, ⟨s.world, limiterAfter gateway registration.definition actor s.limiter,
          s.log ++ events⟩) ∧
      handlerPayloads events = [] := by
  unfold RateAllowed at h
  push Not at h
  obtain ⟨rateLimit, tryConsume, hlimit, hlimiter, hrefused⟩ := h
  unfold limitedCall limiterAfter
  simp only [exec_bind, exec_consumeRate, hlimit, hlimiter]
  rw [ne_eq, Bool.not_eq_true] at hrefused
  simp only [hrefused, Bool.not_false, if_true, exec_bind, exec_emit, exec_pure]
  exact ⟨_, _, by rw [List.append_assoc], rfl⟩

/-! ## When the handler runs -/

/-- The events of an invocation. -/
def eventsOf (gateway : ToolGateway W L) (toolName : String) (payload : Payload)
    (ctx : AuthorizationContext) (conversationId : Option Uuid) (s : GatewayState W L) :
    List GatewayEvent :=
  (exec (gateway.invoke toolName payload ctx conversationId) { s with log := [] }).2.log

/-- An invocation calls the handler at least once. -/
def RunsHandler (gateway : ToolGateway W L) (toolName : String) (payload : Payload)
    (ctx : AuthorizationContext) (conversationId : Option Uuid) (s : GatewayState W L) : Prop :=
  handlerPayloads (eventsOf gateway toolName payload ctx conversationId s) ≠ []

instance (gateway : ToolGateway W L) (toolName : String) (payload : Payload)
    (ctx : AuthorizationContext) (conversationId : Option Uuid) (s : GatewayState W L) :
    Decidable (RunsHandler gateway toolName payload ctx conversationId s) :=
  inferInstanceAs (Decidable (_ ≠ []))

/-- The handler runs exactly when the call is admitted, the limiter allows it and it is approved. -/
theorem runsHandler_iff {s : GatewayState W L} :
    RunsHandler gateway toolName payload ctx conversationId s ↔
      ∃ registration validated,
        admission gateway toolName payload ctx conversationId = .ok (registration, validated) ∧
        RateAllowed gateway registration.definition ctx.userId.str s.limiter ∧
        approval gateway registration.definition ctx.userId.str validated =
          .ok (.approved, none) := by
  unfold RunsHandler eventsOf
  constructor
  · intro hruns
    rw [exec_invoke] at hruns
    cases hadmission : admission gateway toolName payload ctx conversationId with
    | error refusal =>
      obtain ⟨e, events⟩ := refusal
      rw [hadmission] at hruns
      exact absurd (handlerPayloads_of_refused hadmission) hruns
    | ok admitted =>
      obtain ⟨registration, validated⟩ := admitted
      rw [hadmission] at hruns
      refine ⟨registration, validated, rfl, ?_⟩
      by_cases hrate : RateAllowed gateway registration.definition ctx.userId.str s.limiter
      · refine ⟨hrate, ?_⟩
        dsimp only at hruns
        rw [exec_limitedCall_of_allowed { s with log := [] } hrate] at hruns
        obtain ⟨events, hlog, hcalled⟩ := executeApproved_run gateway registration ctx.userId.str
          conversationId validated _
        rw [hlog, List.nil_append] at hruns
        exact (hcalled hruns).1
      · obtain ⟨record, events, hexec, hnone⟩ :=
          @exec_limitedCall_of_refused W L gateway conversationId registration ctx.userId.str
            validated { s with log := [] } hrate
        dsimp only at hruns
        rw [hexec] at hruns
        exact absurd hnone hruns
  · rintro ⟨registration, validated, hadmission, hrate, happroved⟩
    rw [exec_invoke_of_admitted hadmission,
      exec_limitedCall_of_allowed { s with log := [] } hrate]
    obtain ⟨events, outcomes, hlog, hexecuted, -⟩ := executeApproved_of_approved happroved
      conversationId { s with
        limiter := limiterAfter gateway registration.definition ctx.userId.str s.limiter
        log := [] }
    rw [hlog, List.nil_append, hexecuted.handlerPayloads_eq]
    have hone := hexecuted.attempts.one_le
    intro hnil
    rw [List.replicate_eq_nil_iff] at hnil
    omega

/-- The world changes only behind the rate limit. -/
theorem world_invoke (s : GatewayState W L) :
    (exec (gateway.invoke toolName payload ctx conversationId) s).2.world = s.world ∨
      ∃ registration validated,
        admission gateway toolName payload ctx conversationId = .ok (registration, validated) ∧
        (exec (gateway.invoke toolName payload ctx conversationId) s).2.world =
          (exec (executeApproved gateway registration ctx.userId.str conversationId validated)
            { s with
              limiter := limiterAfter gateway registration.definition ctx.userId.str
                s.limiter }).2.world := by
  rw [exec_invoke]
  cases hadmission : admission gateway toolName payload ctx conversationId with
  | error refusal => exact Or.inl rfl
  | ok admitted =>
    obtain ⟨registration, validated⟩ := admitted
    by_cases hrate : RateAllowed gateway registration.definition ctx.userId.str s.limiter
    · refine Or.inr ⟨registration, validated, rfl, ?_⟩
      dsimp only
      rw [exec_limitedCall_of_allowed s hrate]
    · obtain ⟨record, events, hexec, -⟩ :=
        @exec_limitedCall_of_refused W L gateway conversationId registration ctx.userId.str
          validated s hrate
      refine Or.inl ?_
      dsimp only
      rw [hexec]

/-! ## Tools that are not retried -/

theorem exec_attemptLoop_zero (tool : ToolDefinition W) (actor : String)
    (conversationId : Option Uuid) (payload : Payload) (s : GatewayState W L) :
    (exec (attemptLoop tool actor conversationId payload 0 0) s).1 =
        (checkedOutput tool (tool.handler payload s.world).2).map (fun result => (result, 0)) ∧
      (exec (attemptLoop tool actor conversationId payload 0 0) s).2.world =
        (tool.handler payload s.world).1 := by
  unfold attemptLoop
  simp only [exec_bind, exec_callHandler]
  cases checkedOutput tool (tool.handler payload s.world).2 with
  | ok result => exact ⟨rfl, rfl⟩
  | error e =>
    dsimp only
    cases e.isException with
    | false => exact ⟨rfl, rfl⟩
    | true => exact ⟨rfl, rfl⟩

theorem world_adaptResult (registration : AssistantToolRegistration W) (actor : String)
    (conversationId : Option Uuid) (validated result : Payload) (s : GatewayState W L) :
    (exec (adaptResult registration actor conversationId validated result) s).2.world =
      s.world := by
  unfold adaptResult
  dsimp only
  rcases registration.resultAdapter validated result with e | evidence
  · by_cases hkind : e.kind = "EvidenceAdaptationError"
    · simp only [if_pos hkind, exec_bind, exec_emit, exec_pure]
    · simp only [if_neg hkind, exec_throw]
  · cases hempty : evidence.isEmpty with
    | true => simp [exec_throw, hempty]
    | false => simp [exec_pure, hempty]

/-- An approved call of a tool that is not retried: the handler has run once, and its output goes to
the adapter. -/
theorem exec_executeApproved_once {registration : AssistantToolRegistration W} {actor : String}
    {validated : Payload} (hretries : registration.definition.maxRetries = 0)
    (happroval : approval gateway registration.definition actor validated = .ok (.approved, none))
    (conversationId : Option Uuid) (s : GatewayState W L) :
    (exec (executeApproved gateway registration actor conversationId validated) s).2.world =
        (registration.definition.handler validated s.world).1 ∧
      ∀ result, checkedOutput registration.definition
          (registration.definition.handler validated s.world).2 = .ok result →
        ∃ s' : GatewayState W L,
          (exec (executeApproved gateway registration actor conversationId validated) s).1 =
          (exec (adaptResult registration actor conversationId validated result) s').1 := by
  unfold executeApproved
  simp only [exec_bind, exec_liftExcept, happroval, exec_emit, ne_eq, not_true_eq_false, if_false,
    hretries]
  obtain ⟨hresult, hworld⟩ := exec_attemptLoop_zero registration.definition actor conversationId
    validated { s with log := s.log ++
      [.audit (approvedRecord registration.definition actor conversationId validated)] }
  simp only [approvedRecord] at hresult hworld
  revert hresult hworld
  rcases exec (attemptLoop registration.definition actor conversationId validated 0 0)
    _ with ⟨r, s'⟩
  cases hchecked : checkedOutput registration.definition
      (registration.definition.handler validated s.world).2 with
  | error e =>
    rintro ⟨⟩ hworld
    refine ⟨hworld, ?_⟩
    intro _ hok
    cases hok
  | ok result =>
    rintro ⟨⟩ hworld
    refine ⟨?_, ?_⟩
    · dsimp only
      rw [world_adaptResult]
      exact hworld
    · rintro _ ⟨⟩
      exact ⟨_, rfl⟩

end HotAirBalloon.Gateway
