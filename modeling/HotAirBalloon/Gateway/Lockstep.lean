import HotAirBalloon.Gateway.Gating

/-!
# Computations in lockstep

Two runs of a gateway computation from related states. A stage that reads of the state only what the
relation settles gives both runs the same result and leaves related states; the stages behind the
rate limit read the state only through the handler.
-/

namespace HotAirBalloon.Gateway

open Python Kernel User

variable {W L α β : Type}

/-- The computation gives the same result from related states, and leaves related states. -/
def Lockstep (P : GatewayState W L → GatewayState W L → Prop) (m : GatewayM W L α) : Prop :=
  ∀ s t, P s t → (exec m s).1 = (exec m t).1 ∧ P (exec m s).2 (exec m t).2

/-- A relation that survives an event sent to both sinks. -/
def EventStable (P : GatewayState W L → GatewayState W L → Prop) : Prop :=
  ∀ event s t, P s t → P { s with log := s.log ++ [event] } { t with log := t.log ++ [event] }

variable {P : GatewayState W L → GatewayState W L → Prop}

theorem lockstep_pure (a : α) : Lockstep P (pure a : GatewayM W L α) :=
  fun _ _ h => ⟨rfl, h⟩

theorem lockstep_throw (e : PyError) : Lockstep P (throw e : GatewayM W L α) :=
  fun _ _ h => ⟨rfl, h⟩

theorem lockstep_bind {m : GatewayM W L α} {f : α → GatewayM W L β} (hm : Lockstep P m)
    (hf : ∀ a, Lockstep P (f a)) : Lockstep P (m >>= f) := by
  intro s t h
  obtain ⟨hresult, hstate⟩ := hm s t h
  rw [exec_bind, exec_bind]
  revert hresult hstate
  rcases exec m s with ⟨r, s'⟩
  rcases exec m t with ⟨r', t'⟩
  rintro ⟨⟩ hstate
  cases r with
  | error e => exact ⟨rfl, hstate⟩
  | ok a => exact hf a s' t' hstate

/-- After a pure stage only its result matters. -/
theorem lockstep_liftExcept_bind {x : Except PyError α} {f : α → GatewayM W L β}
    (hf : ∀ a, x = .ok a → Lockstep P (f a)) : Lockstep P (liftExcept x >>= f) := by
  cases x with
  | error e => exact fun _ _ h => ⟨rfl, h⟩
  | ok a => exact hf a rfl

theorem lockstep_emit (hevent : EventStable P) (event : GatewayEvent) :
    Lockstep P (emit event : GatewayM W L Unit) :=
  fun s t h => ⟨rfl, hevent event s t h⟩

theorem lockstep_ite {p : Prop} [Decidable p] {m m' : GatewayM W L α} (hm : p → Lockstep P m)
    (hm' : ¬p → Lockstep P m') : Lockstep P (if p then m else m') := by
  by_cases hp : p
  · rw [if_pos hp]
    exact hm hp
  · rw [if_neg hp]
    exact hm' hp

theorem lockstep_attemptLoop (hevent : EventStable P) {tool : ToolDefinition W} {payload : Payload}
    (hcall : Lockstep P (callHandler tool payload)) (actor : String) (conversationId : Option Uuid)
    (retries attempts : Nat) :
    Lockstep P (attemptLoop tool actor conversationId payload retries attempts) := by
  induction retries generalizing attempts with
  | zero =>
    unfold attemptLoop
    refine lockstep_bind hcall ?_
    intro outcome
    cases checkedOutput tool outcome with
    | ok result => exact lockstep_pure _
    | error e =>
      refine lockstep_ite (fun _ => lockstep_throw e) (fun _ => ?_)
      exact lockstep_bind (lockstep_emit hevent _) (fun _ => lockstep_throw e)
  | succ retries ih =>
    unfold attemptLoop
    refine lockstep_bind hcall ?_
    intro outcome
    cases checkedOutput tool outcome with
    | ok result => exact lockstep_pure _
    | error e => exact lockstep_ite (fun _ => lockstep_throw e) (fun _ => ih (attempts + 1))

theorem lockstep_adaptResult (hevent : EventStable P) (registration : AssistantToolRegistration W)
    (actor : String) (conversationId : Option Uuid) (validated result : Payload) :
    Lockstep P (adaptResult registration actor conversationId validated result) := by
  unfold adaptResult
  dsimp only
  cases registration.resultAdapter validated result with
  | error e =>
    refine lockstep_ite (fun _ => ?_) (fun _ => lockstep_throw e)
    exact lockstep_bind (lockstep_emit hevent _) (fun _ => lockstep_pure _)
  | ok evidence => exact lockstep_ite (fun _ => lockstep_throw _) (fun _ => lockstep_pure _)

theorem lockstep_executeApproved (hevent : EventStable P)
    {registration : AssistantToolRegistration W} {validated : Payload}
    (hcall : Lockstep P (callHandler registration.definition validated)) (gateway : ToolGateway W L)
    (actor : String) (conversationId : Option Uuid) :
    Lockstep P (executeApproved gateway registration actor conversationId validated) := by
  unfold executeApproved
  refine lockstep_liftExcept_bind ?_
  rintro ⟨decision, reason⟩ -
  refine lockstep_bind (lockstep_emit hevent _) (fun _ => ?_)
  refine lockstep_ite (fun _ => ?_) (fun _ => ?_)
  · exact lockstep_bind (lockstep_emit hevent _) (fun _ => lockstep_pure _)
  · refine lockstep_bind (lockstep_attemptLoop hevent hcall _ _ _ _) ?_
    rintro ⟨result, attempts⟩
    exact lockstep_bind (lockstep_emit hevent _) (fun _ => lockstep_adaptResult hevent _ _ _ _ _)

/-! ## Handlers that depend on their payload only -/

/-- Two states with the same log, and with limiters of their own. -/
structure SameLog (l l' : L) (s t : GatewayState W L) : Prop where
  left : s.limiter = l
  right : t.limiter = l'
  log : s.log = t.log

theorem SameLog.eventStable (l l' : L) :
    EventStable (SameLog l l' : GatewayState W L → GatewayState W L → Prop) :=
  fun _ _ _ h => ⟨h.left, h.right, by simp only [h.log]⟩

/-- The outcome of the handler depends on its payload only. -/
def PureHandler (tool : ToolDefinition W) : Prop :=
  ∀ payload w w', (tool.handler payload w).2 = (tool.handler payload w').2

/-- Behind the rate limit, the result and the events of a call depend on the call only. -/
theorem sameLog_executeApproved {registration : AssistantToolRegistration W}
    (hpure : PureHandler registration.definition) (gateway : ToolGateway W L) (actor : String)
    (conversationId : Option Uuid) (validated : Payload) (l l' : L) :
    Lockstep (SameLog l l')
      (executeApproved gateway registration actor conversationId validated) := by
  refine lockstep_executeApproved (SameLog.eventStable l l') ?_ gateway actor conversationId
  intro s t h
  have houtcome := hpure validated s.world t.world
  rw [exec_callHandler, exec_callHandler]
  exact ⟨by rw [houtcome], h.left, h.right, by simp only [houtcome, h.log]⟩

end HotAirBalloon.Gateway
