import HotAirBalloon.Gateway.Lockstep

/-!
# Invocations in two worlds

An invocation reads the world only through the handler. So if a relation `R` between worlds
is kept by the handler of the called tool, and related worlds give the same outcome, then an
invocation from related worlds ends with the same result, the same limiter and the same log.
The handler is only asked about payloads that pass the gates before it.
-/

namespace HotAirBalloon.Gateway

open Python Kernel User

variable {W L α β : Type} {R : W → W → Prop}

/-- Two states that differ in the world only, by related worlds. -/
structure Indistinct (R : W → W → Prop) (s t : GatewayState W L) : Prop where
  world : R s.world t.world
  limiter : s.limiter = t.limiter
  log : s.log = t.log

/-- Computations that give the same result from states that differ by related worlds. -/
def Blind (R : W → W → Prop) (m : GatewayM W L α) : Prop :=
  ∀ s t, Indistinct R s t →
    (exec m s).1 = (exec m t).1 ∧ Indistinct R (exec m s).2 (exec m t).2

theorem Indistinct.eventStable : EventStable (Indistinct R : GatewayState W L → _ → Prop) :=
  fun _ _ _ h => ⟨h.world, h.limiter, by simp only [h.log]⟩

theorem blind_throw (e : PyError) : Blind R (throw e : GatewayM W L α) := lockstep_throw e

theorem blind_bind {m : GatewayM W L α} {f : α → GatewayM W L β} (hm : Blind R m)
    (hf : ∀ a, Blind R (f a)) : Blind R (m >>= f) :=
  lockstep_bind hm hf

theorem blind_emit (event : GatewayEvent) : Blind R (emit event : GatewayM W L Unit) :=
  lockstep_emit Indistinct.eventStable event

/-- A handler that related worlds cannot tell apart on a payload. -/
def HandlerBlind (R : W → W → Prop) (tool : ToolDefinition W) (payload : Payload) : Prop :=
  ∀ w w', R w w' → (tool.handler payload w).2 = (tool.handler payload w').2 ∧
    R (tool.handler payload w).1 (tool.handler payload w').1

theorem blind_callHandler {tool : ToolDefinition W} {payload : Payload}
    (h : HandlerBlind R tool payload) : Blind R (callHandler tool payload : GatewayM W L _) := by
  intro s t hst
  obtain ⟨houtcome, hworld⟩ := h _ _ hst.world
  rw [exec_callHandler, exec_callHandler]
  exact ⟨by rw [houtcome], hworld, hst.limiter, by simp only [houtcome, hst.log]⟩

theorem blind_executeApproved {registration : AssistantToolRegistration W} {validated : Payload}
    (h : HandlerBlind R registration.definition validated) (gateway : ToolGateway W L)
    (actor : String) (conversationId : Option Uuid) :
    Blind R (executeApproved gateway registration actor conversationId validated) :=
  lockstep_executeApproved Indistinct.eventStable (blind_callHandler h) gateway actor conversationId

theorem blind_consumeRate (gateway : ToolGateway W L) (tool : ToolDefinition W) (actor : String) :
    Blind R (consumeRate gateway tool actor) := by
  intro s t h
  rw [exec_consumeRate, exec_consumeRate]
  cases tool.rateLimit with
  | none => exact ⟨rfl, h⟩
  | some rateLimit =>
    cases gateway.rateLimiter with
    | none => exact ⟨rfl, h⟩
    | some tryConsume =>
      dsimp only
      rw [h.limiter]
      exact ⟨rfl, h.world, rfl, h.log⟩

/-- An invocation whose handler is blind on every payload that reaches it is blind. -/
theorem blind_invoke (gateway : ToolGateway W L) (toolName : String) (payload : Payload)
    (ctx : AuthorizationContext) (conversationId : Option Uuid)
    (h : ∀ registration scopedPayload validated siteCode,
      gateway.registry.get toolName = some registration →
      siteScope registration.definition ctx payload = .ok scopedPayload →
      validateStrictInput registration.definition.inputModel scopedPayload = .ok validated →
      siteCodeOf registration.definition validated = .ok siteCode →
      gateway.permissionChecker ctx registration.definition.requiredPermission siteCode = true →
      HandlerBlind R registration.definition validated) :
    Blind R (gateway.invoke toolName payload ctx conversationId) := by
  unfold ToolGateway.invoke
  cases hreg : gateway.registry.get toolName with
  | none => exact blind_throw _
  | some registration =>
  dsimp only
  cases hscope : siteScope registration.definition ctx payload with
  | error reason =>
    exact blind_bind (blind_emit _) (fun _ => blind_bind (blind_emit _) (fun _ => blind_throw _))
  | ok scopedPayload =>
  refine lockstep_liftExcept_bind ?_
  intro validated hvalid
  refine lockstep_liftExcept_bind ?_
  intro siteCode hsite
  cases hperm :
    gateway.permissionChecker ctx registration.definition.requiredPermission siteCode with
  | false =>
    simp only [Bool.not_false, if_true]
    exact blind_bind (blind_emit _) (fun _ => blind_bind (blind_emit _) (fun _ => blind_throw _))
  | true =>
  simp only [Bool.not_true, Bool.false_eq_true, if_false]
  have hhandler := h registration scopedPayload validated siteCode hreg hscope hvalid hsite hperm
  refine blind_bind (blind_consumeRate gateway _ _) ?_
  intro verdict
  cases verdict with
  | none => exact blind_executeApproved hhandler gateway _ _
  | some verdict =>
    obtain ⟨rateLimit, verdict⟩ := verdict
    refine lockstep_ite (fun _ => ?_) (fun _ => blind_executeApproved hhandler gateway _ _)
    exact blind_bind (blind_emit _) (fun _ => blind_bind (blind_emit _) (fun _ => lockstep_pure _))

end HotAirBalloon.Gateway
