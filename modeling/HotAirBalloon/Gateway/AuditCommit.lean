import HotAirBalloon.Gateway.Runtime

/-!
# The commit of the audit

`GatewayToolRuntime.invoke`: the sinks of the gateway add rows to a session, and the session is
committed when the gateway returns or raises an `Exception`. Closing a session that is not committed
rolls its rows back, while what a handler did is committed in sessions of its own.

An await of a sink may raise. Nothing in `ToolGateway.invoke` catches what a sink raises, so an
invocation with such a fault is the invocation without it, up to the call of that sink.
-/

namespace HotAirBalloon.Gateway

open Python Kernel User

variable {W L : Type}

/-! ## Invocations with faults -/

/-- What awaiting the sinks raises: for each call of a sink, in order, an error or nothing. -/
abbrev SinkFaults := Nat → Option PyError

/-- The events up to the first call of a sink that raises, and what it raises, where `n` calls of a
sink came before. -/
def interrupted (faults : SinkFaults) : Nat → List GatewayEvent → List GatewayEvent × Option PyError
  | _, [] => ([], none)
  | n, .handlerCalled payload outcome :: rest =>
    (.handlerCalled payload outcome :: (interrupted faults n rest).1, (interrupted faults n rest).2)
  | n, event :: rest =>
    match faults n with
    | some e => ([], some e)
    | none => (event :: (interrupted faults (n + 1) rest).1, (interrupted faults (n + 1) rest).2)

structure RuntimeCall where
  outcome : Except PyError ToolCallRecord
  events : List GatewayEvent
  /-- The audit rows that are in the database when the session is closed. -/
  committed : List ToolAuditRecord

/-- The rows of the session in the database when the session is closed: it is committed when the
gateway returns, and by `except Exception: commit; raise`. -/
def committedRows (outcome : Except PyError ToolCallRecord) (flushed : List ToolAuditRecord) :
    List ToolAuditRecord :=
  match outcome with
  | .ok _ => flushed
  | .error e => if e.isException then flushed else []

/-- `GatewayToolRuntime.invoke`. -/
def GatewayToolRuntime.invoke (runtime : GatewayToolRuntime W L) (faults : SinkFaults)
    (toolName : String) (payload : Payload) (ctx : AuthorizationContext)
    (conversationId : Option Uuid) (s : GatewayState W L) : RuntimeCall :=
  let run := exec (runtime.gateway.invoke toolName payload ctx conversationId) { s with log := [] }
  let (events, fault) := interrupted faults 0 run.2.log
  let outcome : Except PyError ToolCallRecord :=
    match fault with
    | some e => .error e
    | none => run.1
  { outcome := outcome
    events := events
    committed := committedRows outcome (auditRecords events) }

/-! ## After the handler -/

/-- The trace events after the last attempt. -/
def tracesAfter (registration : AssistantToolRegistration W) (validated : Payload) :
    Except PyError Payload → Nat
  | .error e => if e.isException then 1 else 0
  | .ok result =>
    match registration.resultAdapter validated result with
    | .error e => if e.kind = "EvidenceAdaptationError" then 2 else 1
    | .ok _ => 1

/-- What the gateway raises after the last attempt when no sink raises. -/
def errorAfter (registration : AssistantToolRegistration W) (validated : Payload) :
    Except PyError Payload → Option PyError
  | .error e => some e
  | .ok result =>
    match registration.resultAdapter validated result with
    | .error e => if e.kind = "EvidenceAdaptationError" then none else some e
    | .ok evidence =>
      if evidence.isEmpty then
        some (PyError.runtimeError (registration.definition.name ++ " produced no evidence"))
      else none

/-- What ends the invocation from the last attempt on: the first await of the trace sink that
raises, else the handler's, the output model's or the adapter's own error. The audit is call `0` of
a sink. -/
def raisedAfter (faults : SinkFaults) (registration : AssistantToolRegistration W)
    (validated : Payload) (outcome : Except PyError Payload) : Option PyError :=
  let checked := checkedOutput registration.definition outcome
  ((List.range' 1 (tracesAfter registration validated checked)).findSome? faults).or
    (errorAfter registration validated checked)

/-- The error of a result. -/
def raised {α : Type} : Except PyError α → Option PyError
  | .ok _ => none
  | .error e => some e

theorem raised_adaptResult (registration : AssistantToolRegistration W) (actor : String)
    (conversationId : Option Uuid) (validated result : Payload) (s : GatewayState W L) :
    raised (exec (adaptResult registration actor conversationId validated result) s).1 =
      errorAfter registration validated (.ok result) := by
  unfold adaptResult errorAfter
  dsimp only
  rcases registration.resultAdapter validated result with e | evidence
  · by_cases hkind : e.kind = "EvidenceAdaptationError"
    · simp only [if_pos hkind, exec_bind, exec_emit, exec_pure, raised]
    · simp only [if_neg hkind, exec_throw, raised]
  · cases hempty : evidence.isEmpty with
    | true => simp [hempty, exec_throw, raised]
    | false => simp [hempty, exec_pure, raised]

/-- An approved call ends as its last attempt and the adapter say. -/
theorem raised_executeApproved {gateway : ToolGateway W L}
    {registration : AssistantToolRegistration W} {actor : String} {validated : Payload}
    (happroval : approval gateway registration.definition actor validated = .ok (.approved, none))
    (conversationId : Option Uuid) (s : GatewayState W L) :
    raised (exec (executeApproved gateway registration actor conversationId validated) s).1 =
      errorAfter registration validated (checkedOutput registration.definition
        (lastAttempt registration.definition validated registration.definition.maxRetries
          s.world)) := by
  unfold executeApproved
  simp only [exec_bind, exec_liftExcept, happroval, exec_emit, ne_eq, not_true_eq_false, if_false]
  obtain ⟨outcomes, -, -, -, hrun⟩ := attemptLoop_run registration.definition actor conversationId
    validated registration.definition.maxRetries 0 { s with log := s.log ++
      [.audit (approvedRecord registration.definition actor conversationId validated)] }
  simp only [approvedRecord] at hrun
  revert hrun
  rcases exec (attemptLoop registration.definition actor conversationId validated
    registration.definition.maxRetries 0) _ with ⟨r, s'⟩
  cases r with
  | error e =>
    rintro ⟨hchecked, -⟩
    rw [hchecked]
    rfl
  | ok attempt =>
    rintro ⟨hchecked, -⟩
    rw [hchecked]
    exact raised_adaptResult registration actor conversationId validated attempt.1 _

/-- The closing events are as many as the last attempt says. -/
theorem length_closingEvents {registration : AssistantToolRegistration W}
    {outcomes : List (Except PyError Payload)} {last : Except PyError Payload}
    (hlast : outcomes.getLast? = some last) (actor : String) (conversationId : Option Uuid)
    (validated : Payload) :
    (closingEvents registration actor conversationId validated outcomes).length =
      tracesAfter registration validated (checkedOutput registration.definition last) := by
  unfold closingEvents tracesAfter adaptationEvents
  rw [hlast]
  dsimp only [Option.map_some]
  rcases checkedOutput registration.definition last with e | result
  · cases he : e.isException <;> simp [he]
  · dsimp only
    rcases registration.resultAdapter validated result with e | evidence
    · by_cases hkind : e.kind = "EvidenceAdaptationError" <;> simp [hkind]
    · simp

/-! ## Interrupted logs -/

theorem interrupted_calls (faults : SinkFaults) (n : Nat) (payload : Payload)
    (outcomes : List (Except PyError Payload)) (rest : List GatewayEvent) :
    interrupted faults n (outcomes.map (.handlerCalled payload) ++ rest) =
      (outcomes.map (.handlerCalled payload) ++ (interrupted faults n rest).1,
        (interrupted faults n rest).2) := by
  induction outcomes with
  | nil => rfl
  | cons outcome outcomes ih =>
    simp only [List.map_cons, List.cons_append, interrupted, ih]

theorem interrupted_audit {faults : SinkFaults} {n : Nat} (h : faults n = none)
    (record : ToolAuditRecord) (rest : List GatewayEvent) :
    interrupted faults n (.audit record :: rest) =
      (.audit record :: (interrupted faults (n + 1) rest).1,
        (interrupted faults (n + 1) rest).2) := by
  rw [interrupted, h]
  simp

theorem interrupted_prefix (faults : SinkFaults) (n : Nat) (events : List GatewayEvent) :
    (interrupted faults n events).1 <+: events := by
  induction events generalizing n with
  | nil => exact List.prefix_refl _
  | cons event events ih =>
    cases event with
    | handlerCalled payload outcome => exact List.prefix_cons_inj _ |>.mpr (ih n)
    | audit _ | trace _ =>
      unfold interrupted
      cases faults n with
      | some e => exact List.nil_prefix
      | none => exact List.prefix_cons_inj _ |>.mpr (ih (n + 1))

/-- A log cut short has no handler call that the log has not. -/
theorem handlerPayloads_interrupted {faults : SinkFaults} {n : Nat} {events : List GatewayEvent}
    (h : handlerPayloads (interrupted faults n events).1 ≠ []) : handlerPayloads events ≠ [] := by
  obtain ⟨rest, hevents⟩ := interrupted_prefix faults n events
  rw [← hevents, handlerPayloads_append]
  exact List.append_ne_nil_of_left_ne_nil h _

/-- Among trace events the fault is that of the first call that has one. -/
theorem interrupted_traces (faults : SinkFaults) {events : List GatewayEvent}
    (h : ∀ event ∈ events, ∃ e, event = .trace e) (n : Nat) :
    (interrupted faults n events).2 = (List.range' n events.length).findSome? faults := by
  induction events generalizing n with
  | nil => rfl
  | cons event events ih =>
    obtain ⟨e, rfl⟩ := h _ List.mem_cons_self
    have hfault := ih (fun event' hmem => h event' (List.mem_cons_of_mem _ hmem)) (n + 1)
    rw [List.length_cons, List.range'_succ, List.findSome?_cons]
    unfold interrupted
    cases faults n with
    | some fault => rfl
    | none => exact hfault

/-! ## Audited executions -/

section Call

variable {runtime : GatewayToolRuntime W L} {faults : SinkFaults} {toolName : String}
  {payload : Payload} {ctx : AuthorizationContext} {conversationId : Option Uuid}
  {s : GatewayState W L}

/-- The call comes to the handler: every gate lets it through and its audit row is written. -/
structure Reached (runtime : GatewayToolRuntime W L) (faults : SinkFaults) (toolName : String)
    (payload : Payload) (ctx : AuthorizationContext) (conversationId : Option Uuid) (limiter : L)
    (registration : AssistantToolRegistration W) (validated : Payload) : Prop where
  admitted : admission runtime.gateway toolName payload ctx conversationId =
    .ok (registration, validated)
  rateAllowed : RateAllowed runtime.gateway registration.definition ctx.userId.str limiter
  approved : approval runtime.gateway registration.definition ctx.userId.str validated =
    .ok (.approved, none)
  flushed : faults 0 = none

/-- The log of a call that comes to the handler, and how the gateway ends it. -/
theorem exec_invoke_of_reached {registration : AssistantToolRegistration W} {validated : Payload}
    (h : Reached runtime faults toolName payload ctx conversationId s.limiter registration
      validated) :
    ∃ outcomes traces, outcomes ≠ [] ∧ (∀ event ∈ traces, ∃ e, event = .trace e) ∧
      (exec (runtime.gateway.invoke toolName payload ctx conversationId)
        { s with log := [] }).2.log =
        .audit (approvedRecord registration.definition ctx.userId.str conversationId validated) ::
          (outcomes.map (.handlerCalled validated) ++ traces) ∧
      traces.length = tracesAfter registration validated (checkedOutput registration.definition
        (lastAttempt registration.definition validated
          registration.definition.maxRetries s.world)) ∧
      raised (exec (runtime.gateway.invoke toolName payload ctx conversationId)
        { s with log := [] }).1 =
        errorAfter registration validated (checkedOutput registration.definition
          (lastAttempt registration.definition validated registration.definition.maxRetries
            s.world)) := by
  rw [exec_invoke_of_admitted h.admitted, exec_limitedCall_of_allowed { s with log := [] }
    h.rateAllowed]
  obtain ⟨events, outcomes, hlog, hexecuted, hlast⟩ := executeApproved_of_approved h.approved
    conversationId { s with
      limiter := limiterAfter runtime.gateway registration.definition ctx.userId.str s.limiter
      log := [] }
  refine ⟨outcomes, closingEvents registration ctx.userId.str conversationId validated outcomes, ?_,
    closingEvents_trace registration ctx.userId.str conversationId validated outcomes, ?_,
    length_closingEvents hlast ctx.userId.str conversationId validated,
    raised_executeApproved h.approved conversationId _⟩
  · intro hnil
    have hone := hexecuted.attempts.one_le
    rw [hnil] at hone
    simp at hone
  · rw [hlog, List.nil_append, hexecuted.events_eq]

/-- A call that comes to the handler: its rows, and what ends it. -/
theorem invoke_of_reached {registration : AssistantToolRegistration W} {validated : Payload}
    (h : Reached runtime faults toolName payload ctx conversationId s.limiter registration
      validated) :
    approvedRecord registration.definition ctx.userId.str conversationId validated ∈
        auditRecords (runtime.invoke faults toolName payload ctx conversationId s).events ∧
      handlerPayloads (runtime.invoke faults toolName payload ctx conversationId s).events ≠ [] ∧
      raised (runtime.invoke faults toolName payload ctx conversationId s).outcome =
        raisedAfter faults registration validated (lastAttempt registration.definition validated
          registration.definition.maxRetries s.world) := by
  obtain ⟨outcomes, traces, hne, htraces, hlog, hlength, hend⟩ := exec_invoke_of_reached h
  -- the audit is flushed, the calls are no awaits of a sink
  have hinterrupted : interrupted faults 0
      (exec (runtime.gateway.invoke toolName payload ctx conversationId)
        { s with log := [] }).2.log =
      (.audit (approvedRecord registration.definition ctx.userId.str conversationId validated) ::
        (outcomes.map (.handlerCalled validated) ++ (interrupted faults 1 traces).1),
        (List.range' 1 traces.length).findSome? faults) := by
    rw [hlog, interrupted_audit h.flushed, interrupted_calls, interrupted_traces faults htraces]
  unfold GatewayToolRuntime.invoke raisedAfter
  dsimp only
  rw [hinterrupted]
  dsimp only
  refine ⟨List.mem_cons_self, ?_, ?_⟩
  · rw [← List.singleton_append, handlerPayloads_append, handlerPayloads_append,
      handlerPayloads_calls]
    cases outcomes with
    | nil => exact absurd rfl hne
    | cons outcome outcomes => simp [List.replicate_succ]
  · rw [← hlength, ← hend]
    cases (List.range' 1 traces.length).findSome? faults with
    | none => rfl
    | some e => rfl

/-- Where the handler ran, every gate had let the call through. -/
theorem reached_of_called
    (h : handlerPayloads
      (runtime.invoke faults toolName payload ctx conversationId s).events ≠ []) :
    ∃ registration validated,
      Reached runtime faults toolName payload ctx conversationId s.limiter registration
        validated := by
  unfold GatewayToolRuntime.invoke at h
  dsimp only at h
  have hruns : RunsHandler runtime.gateway toolName payload ctx conversationId s :=
    handlerPayloads_interrupted h
  obtain ⟨registration, validated, hadmission, hrate, happroved⟩ := runsHandler_iff.mp hruns
  refine ⟨registration, validated, hadmission, hrate, happroved, ?_⟩
  -- a fault of the audit sink would have ended the invocation before the handler
  have hreached : Reached runtime (fun _ => none) toolName payload ctx conversationId s.limiter
      registration validated := ⟨hadmission, hrate, happroved, rfl⟩
  obtain ⟨outcomes, traces, -, -, hlog, -⟩ := exec_invoke_of_reached hreached
  rw [hlog] at h
  unfold interrupted at h
  cases hfault : faults 0 with
  | none => rfl
  | some e =>
    rw [hfault] at h
    exact absurd rfl h

/-- The session is committed unless something outside `Exception` ends the call. -/
theorem committedRows_eq (outcome : Except PyError ToolCallRecord)
    (flushed : List ToolAuditRecord) : committedRows outcome flushed =
      if (raised outcome).all PyError.isException then flushed else [] := by
  cases outcome with
  | ok record => rfl
  | error e => rfl

theorem committed_invoke (runtime : GatewayToolRuntime W L) (faults : SinkFaults)
    (toolName : String) (payload : Payload) (ctx : AuthorizationContext)
    (conversationId : Option Uuid) (s : GatewayState W L) :
    (runtime.invoke faults toolName payload ctx conversationId s).committed =
      committedRows (runtime.invoke faults toolName payload ctx conversationId s).outcome
        (auditRecords (runtime.invoke faults toolName payload ctx conversationId s).events) :=
  rfl

/-- An audit row of the call is in the database. -/
def AuditCommitted (call : RuntimeCall) (toolName : String) (ctx : AuthorizationContext)
    (conversationId : Option Uuid) : Prop :=
  ∃ record ∈ call.committed, record.toolName = toolName ∧ record.actor = some ctx.userId.str ∧
    record.conversationId = conversationId

/-- A call whose handler ran has its audit row exactly when nothing that the handler's last attempt,
the output model, the trace sink or the adapter raises is outside `Exception`. -/
theorem audited_iff (runtime : GatewayToolRuntime W L) (faults : SinkFaults) (toolName : String)
    (payload : Payload) (ctx : AuthorizationContext) (conversationId : Option Uuid)
    (s : GatewayState W L) :
    (handlerPayloads (runtime.invoke faults toolName payload ctx conversationId s).events ≠ [] →
        AuditCommitted (runtime.invoke faults toolName payload ctx conversationId s) toolName ctx
          conversationId) ↔
      ∀ registration validated,
        Reached runtime faults toolName payload ctx conversationId s.limiter
          registration validated →
        ∀ e,
          raisedAfter faults registration validated (lastAttempt registration.definition validated
          registration.definition.maxRetries s.world) = some e → e.isException = true := by
  constructor
  · intro haudited registration validated hreached e hraised
    obtain ⟨-, hcalled, hend⟩ := invoke_of_reached hreached
    rw [← hend] at hraised
    obtain ⟨record, hrecord, -⟩ := haudited hcalled
    rw [committed_invoke, committedRows_eq, hraised] at hrecord
    by_contra hother
    simp [hother] at hrecord
  · intro hcond hcalled
    obtain ⟨registration, validated, hreached⟩ := reached_of_called hcalled
    obtain ⟨hrecord, -, hend⟩ := invoke_of_reached hreached
    obtain ⟨hget, -⟩ := admission_eq_ok_iff.mp hreached.admitted
    refine ⟨approvedRecord registration.definition ctx.userId.str conversationId validated, ?_,
      ToolRegistry.name_of_get hget, rfl, rfl⟩
    rw [committed_invoke, committedRows_eq, if_pos]
    · exact hrecord
    · rw [hend, Option.all_eq_true]
      exact hcond registration validated hreached

end Call

/-- The tool's task is cancelled while the trace of its run is written. -/
def cancelledTrace : SinkFaults := fun n =>
  if n = 1 then some ⟨"CancelledError", "", false⟩ else none

/-- The handler has run, and no audit row is left. -/
theorem flakyRuntime_unaudited :
    handlerPayloads (flakyRuntime.invoke cancelledTrace "get_work_orders" [] flakyActor none
        ⟨0, (), []⟩).events ≠ [] ∧
      ¬ AuditCommitted (flakyRuntime.invoke cancelledTrace "get_work_orders" [] flakyActor none
        ⟨0, (), []⟩) "get_work_orders" flakyActor none := by
  have hcalled : handlerPayloads (flakyRuntime.invoke cancelledTrace "get_work_orders" [] flakyActor
      none ⟨0, (), []⟩).events ≠ [] := by
    decide +kernel
  have hcommitted : (flakyRuntime.invoke cancelledTrace "get_work_orders" [] flakyActor none
      ⟨0, (), []⟩).committed.isEmpty = true := by
    decide +kernel
  refine ⟨hcalled, ?_⟩
  rintro ⟨record, hrecord, -⟩
  rw [List.isEmpty_iff.mp hcommitted] at hrecord
  cases hrecord

end HotAirBalloon.Gateway
