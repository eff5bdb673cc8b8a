import HotAirBalloon.Gateway.Invoke

/-!
# Gating and audit before execution

Whatever the registry, the handler and the approval service do, a handler runs only behind
every gate of `invoke`, after exactly one audit record, on the payload of that record.

`attemptLoop_run` describes the retry loop from any point of it: the handler calls it adds to
the log are failed attempts followed by one last attempt. `executeApproved_run` puts the audit
record in front and the closing trace events behind, and `invoke_gated` walks through the
exits of `invoke`: every other exit adds no handler call.
-/

namespace HotAirBalloon.Gateway

open Python Kernel User

variable {W L α β : Type}

/-! ## Running a gateway computation -/

/-- The result and the final state of a computation. -/
def exec (m : GatewayM W L α) (s : GatewayState W L) : Except PyError α × GatewayState W L :=
  StateT.run (ExceptT.run m) s

theorem exec_pure (a : α) (s : GatewayState W L) :
    exec (pure a : GatewayM W L α) s = (.ok a, s) := rfl

theorem exec_throw (e : PyError) (s : GatewayState W L) :
    exec (throw e : GatewayM W L α) s = (.error e, s) := rfl

theorem exec_bind (m : GatewayM W L α) (f : α → GatewayM W L β) (s : GatewayState W L) :
    exec (m >>= f) s =
      match exec m s with
      | (.ok a, s') => exec (f a) s'
      | (.error e, s') => (.error e, s') := by
  unfold exec
  rw [ExceptT.run_bind, StateT.run_bind]
  change (match (m.run.run s) with | (r, s') => _) = _
  rcases h : m.run.run s with ⟨r, s'⟩
  cases r <;> rfl

theorem exec_emit (event : GatewayEvent) (s : GatewayState W L) :
    exec (emit event) s = (.ok (), { s with log := s.log ++ [event] }) := rfl

theorem exec_liftExcept (x : Except PyError α) (s : GatewayState W L) :
    exec (liftExcept x) s = (x, s) := by
  cases x <;> rfl

theorem exec_callHandler (tool : ToolDefinition W) (payload : Payload) (s : GatewayState W L) :
    exec (callHandler tool payload) s =
      (.ok (tool.handler payload s.world).2,
        { s with
          world := (tool.handler payload s.world).1
          log := s.log ++ [.handlerCalled payload (tool.handler payload s.world).2] }) := rfl

/-! ## The attempts -/

/-- The trace event that closes `attempts` attempts. -/
def closingTrace (tool : ToolDefinition W) (actor : String) (conversationId : Option Uuid)
    (event : String) (attempts : Nat) : GatewayEvent :=
  .trace {
    toolName := tool.name, actor := some actor, conversationId := conversationId
    event := event, payload := attemptsPayload attempts }

/-- The outcomes of a sequence of attempts: every one but the last failed with an
`Exception`, of the handler or of output validation. -/
structure Attempts (tool : ToolDefinition W) (retries : Nat)
    (outcomes : List (Except PyError Payload)) : Prop where
  one_le : 1 ≤ outcomes.length
  length_le : outcomes.length ≤ retries + 1
  failed : ∀ o ∈ outcomes.dropLast, ∃ e, checkedOutput tool o = .error e ∧ e.isException = true

theorem Attempts.single (tool : ToolDefinition W) (retries : Nat) (o : Except PyError Payload) :
    Attempts tool retries [o] :=
  ⟨by simp, by simp, by simp⟩

theorem Attempts.cons {tool : ToolDefinition W} {retries : Nat} {o : Except PyError Payload}
    {outcomes : List (Except PyError Payload)} {e : PyError}
    (ho : checkedOutput tool o = .error e) (he : e.isException = true)
    (h : Attempts tool retries outcomes) : Attempts tool (retries + 1) (o :: outcomes) := by
  have hne : outcomes ≠ [] := by
    intro hnil
    have := h.one_le
    simp [hnil] at this
  refine ⟨by simp, by simpa using h.length_le, ?_⟩
  intro o' ho'
  rw [List.dropLast_cons_of_ne_nil hne] at ho'
  rcases List.mem_cons.mp ho' with rfl | hm
  · exact ⟨e, ho, he⟩
  · exact h.failed o' hm

/-- The outcome of the last attempt. -/
def lastAttempt (tool : ToolDefinition W) (payload : Payload) : Nat → W → Except PyError Payload
  | retries, world =>
    let (world, outcome) := tool.handler payload world
    match checkedOutput tool outcome with
    | .ok _ => outcome
    | .error e =>
      if !e.isException then outcome
      else
        match retries with
        | 0 => outcome
        | retries + 1 => lastAttempt tool payload retries world

theorem lastAttempt_zero (tool : ToolDefinition W) (payload : Payload) (world : W) :
    lastAttempt tool payload 0 world = (tool.handler payload world).2 := by
  unfold lastAttempt
  dsimp only
  split
  · rfl
  · split <;> rfl

/-- An attempt that is not retried is the last one. -/
theorem lastAttempt_of_stop {tool : ToolDefinition W} {payload : Payload} {world : W}
    (h : ∀ e, checkedOutput tool (tool.handler payload world).2 = .error e → e.isException = false)
    (retries : Nat) : lastAttempt tool payload retries world = (tool.handler payload world).2 := by
  unfold lastAttempt
  dsimp only
  split
  · rfl
  · rename_i e he
    rw [h e he]
    rfl

theorem lastAttempt_succ {tool : ToolDefinition W} {payload : Payload} {world : W} {e : PyError}
    (h : checkedOutput tool (tool.handler payload world).2 = .error e) (he : e.isException = true)
    (retries : Nat) :
    lastAttempt tool payload (retries + 1) world =
      lastAttempt tool payload retries (tool.handler payload world).1 := by
  rw [lastAttempt]
  simp [h, he]

/-- The retry loop after `attempts` failed attempts with `retries` left. -/
theorem attemptLoop_run (tool : ToolDefinition W) (actor : String) (conversationId : Option Uuid)
    (payload : Payload) (retries attempts : Nat) (s : GatewayState W L) :
    ∃ outcomes, Attempts tool retries outcomes ∧
      outcomes.head? = some (tool.handler payload s.world).2 ∧
      outcomes.getLast? = some (lastAttempt tool payload retries s.world) ∧
      match exec (attemptLoop tool actor conversationId payload retries attempts) s with
      | (.ok (result, n), s') =>
        checkedOutput tool (lastAttempt tool payload retries s.world) = .ok result ∧
          n + 1 = attempts + outcomes.length ∧
          s'.log = s.log ++ outcomes.map (.handlerCalled payload)
      | (.error e, s') =>
        checkedOutput tool (lastAttempt tool payload retries s.world) = .error e ∧
          if e.isException then
            outcomes.length = retries + 1 ∧
              s'.log = s.log ++ outcomes.map (.handlerCalled payload) ++
                [closingTrace tool actor conversationId "handler_failed"
                  (attempts + outcomes.length)]
          else s'.log = s.log ++ outcomes.map (.handlerCalled payload) := by
  induction retries generalizing attempts s with
  | zero =>
    rw [lastAttempt_zero]
    refine ⟨[(tool.handler payload s.world).2], Attempts.single _ _ _, rfl, rfl, ?_⟩
    unfold attemptLoop
    simp only [exec_bind, exec_callHandler]
    cases hc : checkedOutput tool (tool.handler payload s.world).2 with
    | ok result => simp [exec_pure]
    | error e =>
      cases he : e.isException with
      | false => simp [exec_throw, he]
      | true => simp [exec_throw, exec_emit, exec_bind, he, closingTrace]
  | succ retries ih =>
    cases hc : checkedOutput tool (tool.handler payload s.world).2 with
    | ok result =>
      rw [lastAttempt_of_stop (by simp [hc])]
      refine ⟨[(tool.handler payload s.world).2], Attempts.single _ _ _, rfl, rfl, ?_⟩
      unfold attemptLoop
      simp [exec_bind, exec_callHandler, hc, exec_pure]
    | error e =>
      cases he : e.isException with
      | false =>
        rw [lastAttempt_of_stop (by simp [hc, he])]
        refine ⟨[(tool.handler payload s.world).2], Attempts.single _ _ _, rfl, rfl, ?_⟩
        unfold attemptLoop
        simp [exec_bind, exec_callHandler, hc, exec_throw, he]
      | true =>
        rw [lastAttempt_succ hc he]
        obtain ⟨outcomes, hatt, -, hlast, hrun⟩ := ih (attempts + 1)
          { s with
            world := (tool.handler payload s.world).1
            log := s.log ++ [.handlerCalled payload (tool.handler payload s.world).2] }
        have hne : outcomes ≠ [] := by
          intro hnil
          simp [hnil] at hlast
        refine ⟨(tool.handler payload s.world).2 :: outcomes, hatt.cons hc he, rfl, ?_, ?_⟩
        · rw [List.getLast?_cons, hlast]
          rfl
        · unfold attemptLoop
          simp only [exec_bind, exec_callHandler, hc, he, Bool.not_true, Bool.false_eq_true,
            if_false]
          revert hrun
          rcases exec (attemptLoop tool actor conversationId payload retries (attempts + 1)) _
            with ⟨r, s'⟩
          cases r with
          | ok p =>
            rintro ⟨hres, hn, hlog⟩
            refine ⟨hres, by simp only [List.length_cons]; omega, ?_⟩
            simpa using hlog
          | error e' =>
            rintro ⟨hres, htail⟩
            refine ⟨hres, ?_⟩
            split at htail
            · rename_i he'
              rw [if_pos he']
              refine ⟨by simp only [List.length_cons]; omega, ?_⟩
              have hcount : attempts + ((tool.handler payload s.world).2 :: outcomes).length =
                  attempts + 1 + outcomes.length := by simp only [List.length_cons]; omega
              rw [hcount]
              simpa using htail.2
            · rename_i he'
              rw [if_neg he']
              simpa using htail

/-! ## The audited execution -/

/-- The trace event of a result that the adapter refuses. -/
def adaptationEvents (registration : AssistantToolRegistration W) (actor : String)
    (conversationId : Option Uuid) (validated result : Payload) : List GatewayEvent :=
  match registration.resultAdapter validated result with
  | .error e =>
    if e.kind = "EvidenceAdaptationError" then
      [.trace {
        toolName := registration.definition.name, actor := some actor
        conversationId := conversationId, event := "result_adaptation_failed", payload := [] }]
    else []
  | .ok _ => []

/-- The trace events after the last attempt: `handler_executed` or `handler_failed` with the
number of attempts, nothing after a `BaseException`. -/
def closingEvents (registration : AssistantToolRegistration W) (actor : String)
    (conversationId : Option Uuid) (validated : Payload)
    (outcomes : List (Except PyError Payload)) : List GatewayEvent :=
  let tool := registration.definition
  match outcomes.getLast?.map (checkedOutput tool) with
  | none => []
  | some (.ok result) =>
    closingTrace tool actor conversationId "handler_executed" outcomes.length ::
      adaptationEvents registration actor conversationId validated result
  | some (.error e) =>
    if e.isException then
      [closingTrace tool actor conversationId "handler_failed" outcomes.length]
    else []

/-- The audit record of an approved call. -/
def approvedRecord (tool : ToolDefinition W) (actor : String) (conversationId : Option Uuid)
    (validated : Payload) : ToolAuditRecord where
  toolName := tool.name
  actor := some actor
  payload := validated
  decision := .approved
  conversationId := conversationId

/-- The audit records among some events. -/
def auditRecords (events : List GatewayEvent) : List ToolAuditRecord :=
  events.filterMap fun
    | .audit record => some record
    | _ => none

/-- The payloads the handler was called with. -/
def handlerPayloads (events : List GatewayEvent) : List Payload :=
  events.filterMap fun
    | .handlerCalled payload _ => some payload
    | _ => none

/-- The events of an execution behind all gates: the audit record, the attempts on its
payload, the first of them in the given world, and the closing trace. -/
structure Executed (registration : AssistantToolRegistration W) (actor : String)
    (conversationId : Option Uuid) (validated : Payload) (world : W)
    (outcomes : List (Except PyError Payload)) (events : List GatewayEvent) : Prop where
  attempts : Attempts registration.definition registration.definition.maxRetries outcomes
  first_eq : outcomes.head? = some (registration.definition.handler validated world).2
  exhausted : ∀ o e, outcomes.getLast? = some o →
    checkedOutput registration.definition o = .error e →
    e.isException = true → outcomes.length = registration.definition.maxRetries + 1
  events_eq : events =
    .audit (approvedRecord registration.definition actor conversationId validated) ::
      (outcomes.map (.handlerCalled validated) ++
        closingEvents registration actor conversationId validated outcomes)

theorem handlerPayloads_append (xs ys : List GatewayEvent) :
    handlerPayloads (xs ++ ys) = handlerPayloads xs ++ handlerPayloads ys :=
  List.filterMap_append

theorem auditRecords_append (xs ys : List GatewayEvent) :
    auditRecords (xs ++ ys) = auditRecords xs ++ auditRecords ys :=
  List.filterMap_append

theorem closingEvents_trace (registration : AssistantToolRegistration W) (actor : String)
    (conversationId : Option Uuid) (validated : Payload)
    (outcomes : List (Except PyError Payload)) :
    ∀ event ∈ closingEvents registration actor conversationId validated outcomes,
      ∃ e, event = .trace e := by
  intro event h
  unfold closingEvents closingTrace adaptationEvents at h
  dsimp only at h
  split at h
  · cases h
  · rcases List.mem_cons.mp h with rfl | h
    · exact ⟨_, rfl⟩
    · split at h
      · split at h
        · exact ⟨_, List.mem_singleton.mp h⟩
        · cases h
      · cases h
  · split at h
    · exact ⟨_, List.mem_singleton.mp h⟩
    · cases h

theorem auditRecords_of_trace {events : List GatewayEvent}
    (h : ∀ e ∈ events, ∃ t, e = GatewayEvent.trace t) : auditRecords events = [] := by
  apply List.filterMap_eq_nil_iff.mpr
  intro e he
  obtain ⟨t, rfl⟩ := h e he
  rfl

theorem handlerPayloads_of_trace {events : List GatewayEvent}
    (h : ∀ e ∈ events, ∃ t, e = GatewayEvent.trace t) : handlerPayloads events = [] := by
  apply List.filterMap_eq_nil_iff.mpr
  intro e he
  obtain ⟨t, rfl⟩ := h e he
  rfl

theorem auditRecords_calls (payload : Payload) (outcomes : List (Except PyError Payload)) :
    auditRecords (outcomes.map (.handlerCalled payload)) = [] := by
  apply List.filterMap_eq_nil_iff.mpr
  intro e he
  obtain ⟨o, -, rfl⟩ := List.mem_map.mp he
  rfl

theorem handlerPayloads_calls (payload : Payload) (outcomes : List (Except PyError Payload)) :
    handlerPayloads (outcomes.map (.handlerCalled payload)) =
      List.replicate outcomes.length payload := by
  induction outcomes with
  | nil => rfl
  | cons o outcomes ih =>
    simp only [handlerPayloads, List.map_cons, List.filterMap_cons, List.length_cons,
      List.replicate_succ, List.cons.injEq, true_and]
    exact ih

namespace Executed

variable {registration : AssistantToolRegistration W} {actor : String}
  {conversationId : Option Uuid} {validated : Payload} {world : W}
  {outcomes : List (Except PyError Payload)} {events : List GatewayEvent}

/-- Exactly one audit record, the approved one. -/
theorem auditRecords_eq
    (h : Executed registration actor conversationId validated world outcomes events) :
    auditRecords events =
      [approvedRecord registration.definition actor conversationId validated] := by
  have htail := auditRecords_of_trace
    (closingEvents_trace registration actor conversationId validated outcomes)
  rw [h.events_eq, ← List.singleton_append, auditRecords_append, auditRecords_append,
    auditRecords_calls, htail]
  rfl

/-- Every attempt receives the payload of the audit record. -/
theorem handlerPayloads_eq
    (h : Executed registration actor conversationId validated world outcomes events) :
    handlerPayloads events = List.replicate outcomes.length validated := by
  have htail := handlerPayloads_of_trace
    (closingEvents_trace registration actor conversationId validated outcomes)
  rw [h.events_eq, ← List.singleton_append, handlerPayloads_append, handlerPayloads_append,
    handlerPayloads_calls, htail, List.append_nil]
  rfl

end Executed

/-! ## The stages after the rate limit -/

theorem reason_of_approved {gateway : ToolGateway W L} {tool : ToolDefinition W} {actor : String}
    {validated : Payload} {reason : Option String}
    (h : approval gateway tool actor validated = .ok (.approved, reason)) : reason = none := by
  unfold approval at h
  split at h
  · split at h
    · cases h
    · split at h
      · cases h
      · cases h
        rfl
      · rename_i hne _
        cases h
        exact absurd rfl hne
  · cases h
    rfl

theorem adaptResult_run (registration : AssistantToolRegistration W) (actor : String)
    (conversationId : Option Uuid) (validated result : Payload) (s : GatewayState W L) :
    (exec (adaptResult registration actor conversationId validated result) s).2.log =
      s.log ++ adaptationEvents registration actor conversationId validated result := by
  unfold adaptResult adaptationEvents
  rcases registration.resultAdapter validated result with e | evidence
  · by_cases he : e.kind = "EvidenceAdaptationError"
    · simp only [if_pos he, exec_bind, exec_emit, exec_pure]
    · simp [he, exec_throw]
  · cases hempty : evidence.isEmpty with
    | true => simp [exec_throw, hempty]
    | false => simp [exec_pure, hempty]

/-- An approved call is executed: the audit record, the attempts and the closing trace. -/
theorem executeApproved_of_approved {gateway : ToolGateway W L}
    {registration : AssistantToolRegistration W} {actor : String} {validated : Payload}
    (happroval : approval gateway registration.definition actor validated = .ok (.approved, none))
    (conversationId : Option Uuid) (s : GatewayState W L) :
    ∃ events outcomes,
      (exec (executeApproved gateway registration actor conversationId validated) s).2.log =
        s.log ++ events ∧
      Executed registration actor conversationId validated s.world outcomes events ∧
      outcomes.getLast? = some (lastAttempt registration.definition validated
        registration.definition.maxRetries s.world) := by
  unfold executeApproved
  simp only [exec_bind, exec_liftExcept, happroval, exec_emit, ne_eq, not_true_eq_false, if_false]
  obtain ⟨outcomes, hattempts, hfirst, hlast, hrun⟩ := attemptLoop_run registration.definition
    actor conversationId validated registration.definition.maxRetries 0
    { s with log := s.log ++
        [.audit (approvedRecord registration.definition actor conversationId validated)] }
  simp only [approvedRecord] at hrun
  -- the events of the log are determined by the last attempt
  refine ⟨.audit (approvedRecord registration.definition actor conversationId validated) ::
    (outcomes.map (.handlerCalled validated) ++
      closingEvents registration actor conversationId validated outcomes), outcomes, ?_,
    ⟨hattempts, hfirst, ?_, rfl⟩, hlast⟩
  · revert hrun
    rcases exec (attemptLoop registration.definition actor conversationId validated
      registration.definition.maxRetries 0) _ with ⟨r, s'⟩
    cases r with
    | error e =>
      rintro ⟨hcheck, hlog⟩
      cases he : e.isException with
      | true =>
        rw [he, if_pos rfl, Nat.zero_add] at hlog
        simp [hlog.2, closingEvents, hlast, hcheck, he, approvedRecord]
      | false =>
        rw [he, if_neg (by decide)] at hlog
        simp [hlog, closingEvents, hlast, hcheck, he, approvedRecord]
    | ok p =>
      rintro ⟨hcheck, hcount, hlog⟩
      simp only [adaptResult_run, hlog, closingEvents, hlast, Option.map_some, hcheck,
        approvedRecord, closingTrace]
      rw [hcount]
      simp
  · intro o e ho hcheck he
    obtain rfl : _ = o := Option.some.inj (hlast.symm.trans ho)
    revert hrun
    rcases exec (attemptLoop registration.definition actor conversationId validated
      registration.definition.maxRetries 0) _ with ⟨r, s'⟩
    cases r with
    | error e' =>
      rintro ⟨hcheck', hlog⟩
      obtain rfl : e = e' := by simpa [hcheck] using hcheck'
      rw [he, if_pos rfl] at hlog
      exact hlog.1
    | ok p =>
      rintro ⟨hcheck', -⟩
      simp [hcheck] at hcheck'

/-- Any other call reaches no handler. -/
theorem executeApproved_of_blocked {gateway : ToolGateway W L}
    {registration : AssistantToolRegistration W} {actor : String} {validated : Payload}
    (hblocked : ∀ reason,
      approval gateway registration.definition actor validated ≠ .ok (.approved, reason))
    (conversationId : Option Uuid) (s : GatewayState W L) :
    ∃ events,
      (exec (executeApproved gateway registration actor conversationId validated) s).2.log =
        s.log ++ events ∧ handlerPayloads events = [] := by
  unfold executeApproved
  simp only [exec_bind, exec_liftExcept]
  rcases happroval : approval gateway registration.definition actor validated with
    e | ⟨decision, reason⟩
  · exact ⟨[], by simp, rfl⟩
  simp only [exec_emit]
  have hdecision : decision ≠ .approved := by
    rintro rfl
    exact hblocked reason happroval
  simp only [ne_eq, hdecision, not_false_eq_true, if_true]
  exact ⟨_, List.append_assoc _ _ _, rfl⟩

/-- Behind the rate limit: either no handler call is added to the log, or the approval
decision was `approved` and the execution is the audited one. -/
theorem executeApproved_run (gateway : ToolGateway W L) (registration : AssistantToolRegistration W)
    (actor : String) (conversationId : Option Uuid) (validated : Payload) (s : GatewayState W L) :
    ∃ events,
      (exec (executeApproved gateway registration actor conversationId validated) s).2.log =
        s.log ++ events ∧
      (handlerPayloads events ≠ [] →
        approval gateway registration.definition actor validated = .ok (.approved, none) ∧
          ∃ outcomes,
            Executed registration actor conversationId validated s.world outcomes events) := by
  by_cases happroval :
    approval gateway registration.definition actor validated = .ok (.approved, none)
  · obtain ⟨events, outcomes, hlog, hexecuted, -⟩ :=
      executeApproved_of_approved happroval conversationId s
    exact ⟨events, hlog, fun _ => ⟨happroval, outcomes, hexecuted⟩⟩
  · have hblocked : ∀ reason,
        approval gateway registration.definition actor validated ≠ .ok (.approved, reason) := by
      intro reason heq
      obtain rfl : reason = none := reason_of_approved heq
      exact happroval heq
    obtain ⟨events, hlog, hnone⟩ := executeApproved_of_blocked hblocked conversationId s
    exact ⟨events, hlog, fun h => absurd hnone h⟩

/-! ## The invocation -/

/-- Every gate of an invocation that lets the call through. -/
structure Gates (gateway : ToolGateway W L) (toolName : String) (payload : Payload)
    (ctx : AuthorizationContext) (limiter : L) (registration : AssistantToolRegistration W)
    (scopedPayload validated : Payload) (siteCode : Option String) : Prop where
  registered : gateway.registry.get toolName = some registration
  siteScoped : siteScope registration.definition ctx payload = .ok scopedPayload
  accepted : validateStrictInput registration.definition.inputModel scopedPayload = .ok validated
  siteCode_eq : siteCodeOf registration.definition validated = .ok siteCode
  permitted :
    gateway.permissionChecker ctx registration.definition.requiredPermission siteCode = true
  rateAllowed : ∀ rateLimit tryConsume, registration.definition.rateLimit = some rateLimit →
    gateway.rateLimiter = some tryConsume →
    (tryConsume (some ctx.userId.str) registration.definition.name rateLimit limiter).2.allowed =
      true
  approved :
    approval gateway registration.definition ctx.userId.str validated = .ok (.approved, none)

theorem exec_consumeRate (gateway : ToolGateway W L) (tool : ToolDefinition W) (actor : String)
    (s : GatewayState W L) :
    exec (consumeRate gateway tool actor) s =
      match tool.rateLimit, gateway.rateLimiter with
      | some rateLimit, some tryConsume =>
        (.ok (some (rateLimit, (tryConsume (some actor) tool.name rateLimit s.limiter).2)),
          { s with limiter := (tryConsume (some actor) tool.name rateLimit s.limiter).1 })
      | _, _ => (.ok none, s) := by
  unfold consumeRate
  cases tool.rateLimit with
  | none => rfl
  | some rateLimit =>
    cases gateway.rateLimiter with
    | none => rfl
    | some tryConsume => rfl

/-- An exit before the handler: the events it adds contain no handler call. -/
theorem gated_of_no_call {gateway : ToolGateway W L} {toolName : String} {payload : Payload}
    {ctx : AuthorizationContext} {conversationId : Option Uuid} {s : GatewayState W L}
    {log : List GatewayEvent} (events : List GatewayEvent) (hlog : log = s.log ++ events)
    (hcalls : handlerPayloads events = []) :
    ∃ events, log = s.log ++ events ∧
      (handlerPayloads events ≠ [] →
        ∃ registration scopedPayload validated siteCode outcomes,
          Gates gateway toolName payload ctx s.limiter registration scopedPayload
            validated siteCode ∧
          Executed registration ctx.userId.str conversationId validated s.world outcomes events) :=
  ⟨events, hlog, fun h => absurd hcalls h⟩

/-- An exit that writes one audit record and one trace event. -/
theorem gated_of_blocked {gateway : ToolGateway W L} {toolName : String} {payload : Payload}
    {ctx : AuthorizationContext} {conversationId : Option Uuid} {s : GatewayState W L}
    {log : List GatewayEvent} {record : ToolAuditRecord} {event : ToolTraceEvent}
    (hlog : log = s.log ++ [.audit record] ++ [.trace event]) :
    ∃ events, log = s.log ++ events ∧
      (handlerPayloads events ≠ [] →
        ∃ registration scopedPayload validated siteCode outcomes,
          Gates gateway toolName payload ctx s.limiter registration scopedPayload
            validated siteCode ∧
          Executed registration ctx.userId.str conversationId validated s.world outcomes events) :=
  gated_of_no_call [.audit record, .trace event] (by simp [hlog]) rfl

/-- The exits of `invoke`: only the last one adds handler calls to the log. -/
theorem invoke_run (gateway : ToolGateway W L) (toolName : String) (payload : Payload)
    (ctx : AuthorizationContext) (conversationId : Option Uuid) (s : GatewayState W L) :
    ∃ events,
      (exec (gateway.invoke toolName payload ctx conversationId) s).2.log = s.log ++ events ∧
      (handlerPayloads events ≠ [] →
        ∃ registration scopedPayload validated siteCode outcomes,
          Gates gateway toolName payload ctx s.limiter registration scopedPayload
            validated siteCode ∧
          Executed registration ctx.userId.str conversationId validated s.world outcomes
            events) := by
  unfold ToolGateway.invoke
  cases hreg : gateway.registry.get toolName with
  | none => exact gated_of_no_call [] (by simp [exec_throw]) rfl
  | some registration =>
  dsimp only
  cases hscope : siteScope registration.definition ctx payload with
  | error reason =>
    exact gated_of_blocked rfl
  | ok scopedPayload =>
  simp only [exec_bind, exec_liftExcept]
  cases hvalid : validateStrictInput registration.definition.inputModel scopedPayload with
  | error e => exact gated_of_no_call [] (by simp) rfl
  | ok validated =>
  dsimp only
  cases hsite : siteCodeOf registration.definition validated with
  | error e => exact gated_of_no_call [] (by simp) rfl
  | ok siteCode =>
  dsimp only
  cases hperm :
    gateway.permissionChecker ctx registration.definition.requiredPermission siteCode with
  | false =>
    simp only [Bool.not_false, if_true]
    exact gated_of_blocked rfl
  | true =>
  simp only [Bool.not_true, Bool.false_eq_true, if_false, exec_bind, exec_consumeRate]
  -- what the gates before the limiter give, for any limiter verdict that lets the call through
  have pass : ∀ (limiter : L),
      (∀ rateLimit tryConsume, registration.definition.rateLimit = some rateLimit →
        gateway.rateLimiter = some tryConsume →
        (tryConsume (some ctx.userId.str) registration.definition.name rateLimit
          s.limiter).2.allowed = true) →
      ∃ events, (exec (executeApproved gateway registration ctx.userId.str conversationId validated)
          { s with limiter := limiter }).2.log = s.log ++ events ∧
        (handlerPayloads events ≠ [] →
          ∃ registration scopedPayload validated siteCode outcomes,
            Gates gateway toolName payload ctx s.limiter registration scopedPayload validated
              siteCode ∧
            Executed registration ctx.userId.str conversationId validated s.world outcomes
              events) := by
    intro limiter hrate
    obtain ⟨events, hlog, hcalled⟩ := executeApproved_run gateway registration ctx.userId.str
      conversationId validated { s with limiter := limiter }
    refine ⟨events, hlog, ?_⟩
    intro h
    obtain ⟨happroved, outcomes, hexecuted⟩ := hcalled h
    exact ⟨registration, scopedPayload, validated, siteCode, outcomes,
      ⟨hreg, hscope, hvalid, hsite, hperm, hrate, happroved⟩, hexecuted⟩
  cases hlimit : registration.definition.rateLimit with
  | none => exact pass s.limiter (by simp [hlimit])
  | some rateLimit =>
  cases hlimiter : gateway.rateLimiter with
  | none => exact pass s.limiter (by simp [hlimiter])
  | some tryConsume =>
  dsimp only
  cases hallowed : (tryConsume (some ctx.userId.str) registration.definition.name rateLimit
    s.limiter).2.allowed with
  | false =>
    simp only [Bool.not_false, if_true]
    exact gated_of_blocked rfl
  | true =>
    simp only [Bool.not_true, Bool.false_eq_true, if_false]
    refine pass _ ?_
    intro rateLimit' tryConsume' h h'
    obtain rfl : rateLimit = rateLimit' := by simpa [hlimit] using h
    obtain rfl : tryConsume = tryConsume' := by simpa [hlimiter] using h'
    exact hallowed

/-- If an invocation calls the handler, the call passed every gate, exactly one audit record
was written, before the first handler call, with the decision `approved` and the payload of
every attempt, and the attempts are between one and `maxRetries + 1`, stop at the first whose
output is valid, and are closed by the trace. -/
theorem invoke_gated (gateway : ToolGateway W L) (toolName : String) (payload : Payload)
    (ctx : AuthorizationContext) (conversationId : Option Uuid) (s : GatewayState W L) :
    ∃ events,
      (exec (gateway.invoke toolName payload ctx conversationId) s).2.log = s.log ++ events ∧
      (handlerPayloads events ≠ [] →
        ∃ registration scopedPayload validated siteCode outcomes,
          Gates gateway toolName payload ctx s.limiter registration scopedPayload
            validated siteCode ∧
          Executed registration ctx.userId.str conversationId validated s.world outcomes events ∧
          auditRecords events =
            [approvedRecord registration.definition ctx.userId.str conversationId validated] ∧
          handlerPayloads events = List.replicate outcomes.length validated ∧
          1 ≤ outcomes.length ∧ outcomes.length ≤ registration.definition.maxRetries + 1 ∧
          ∀ o ∈ outcomes.dropLast, ¬∃ result,
            checkedOutput registration.definition o = .ok result) := by
  obtain ⟨events, hlog, hcalled⟩ := invoke_run gateway toolName payload ctx conversationId s
  refine ⟨events, hlog, ?_⟩
  intro h
  obtain ⟨registration, scopedPayload, validated, siteCode, outcomes, hgates, hexec⟩ := hcalled h
  refine ⟨registration, scopedPayload, validated, siteCode, outcomes, hgates, hexec,
    hexec.auditRecords_eq, hexec.handlerPayloads_eq, hexec.attempts.one_le,
    hexec.attempts.length_le, ?_⟩
  rintro o ho ⟨result, hok⟩
  obtain ⟨e, herror, -⟩ := hexec.attempts.failed o ho
  rw [herror] at hok
  cases hok

/-- A tool whose handler fails once and then answers. -/
def flakyTool : ToolDefinition Nat where
  name := "get_work_orders"
  description := "Read work orders"
  inputModel := { name := "GetWorkOrdersInput", extra := some "forbid", modelValidate := .ok }
  outputModel := .ok
  handler payload failures :=
    match failures with
    | 0 => (0, .ok payload)
    | n + 1 => (n, .error (PyError.runtimeError "connection reset"))
  requiredPermission := .workOrdersRead
  siteCodeField := some "site_code"
  maxRetries := 1

def flakyGateway : ToolGateway Nat Unit where
  registry :=
    ⟨[("get_work_orders", ⟨flakyTool, fun _ _ => .ok [.actionRequired {
      evidenceId := "work_orders", action := "Review", reason :=
        "changed" }]⟩)], by simp [flakyTool]⟩
  permissionChecker := defaultPermissionChecker
  approvalService := none

def flakyActor : AuthorizationContext where
  userId := Uuid.ofNat 1
  roles := [.readOnlyAnalyst]
  siteCodes := ["PLANT-1"]
  siteCodes_nodup := List.nodup_singleton _

/-- One failure, one retry: two handler calls. -/
theorem invoke_gated_flaky :
    ∃ events registration scopedPayload validated siteCode outcomes,
      (exec (flakyGateway.invoke "get_work_orders" [] flakyActor none) ⟨1, (), []⟩).2.log = events ∧
      (handlerPayloads events).length = 2 ∧
      Gates flakyGateway "get_work_orders" [] flakyActor () registration scopedPayload validated
        siteCode ∧
      Executed registration flakyActor.userId.str none validated 1 outcomes events := by
  obtain ⟨events, hlog, hcalled⟩ :=
    invoke_gated flakyGateway "get_work_orders" [] flakyActor none ⟨1, (), []⟩
  rw [List.nil_append] at hlog
  have hcalls : (handlerPayloads events).length = 2 := by
    rw [← hlog]
    decide +kernel
  obtain ⟨registration, scopedPayload, validated, siteCode, outcomes, hgates, hexec, -⟩ :=
    hcalled (by
      intro hnil
      simp [hnil] at hcalls)
  exact ⟨events, registration, scopedPayload, validated, siteCode, outcomes, hlog, hcalls, hgates,
    hexec⟩

end HotAirBalloon.Gateway
