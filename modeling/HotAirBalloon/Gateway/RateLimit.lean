import HotAirBalloon.Gateway.Stages
import HotAirBalloon.Gateway.Lockstep
import HotAirBalloon.Library.Unwinding

/-!
# The fixed-window rate limiter

`FixedWindowRateLimiter` of `tool_gateway/rate_limit.py`, and what actors who share one see of each
other. Its counters are kept for each actor and each tool, the clock's readings are rationals, and a
call takes its reading when it is made.

A call of another actor leaves the counters of the observed one alone, and so does a call that a
gate before the limiter refuses. The answers of a run are then those of the run without such calls.
-/

namespace HotAirBalloon.Gateway

open Python Kernel User Library

variable {W : Type}

def anonymousActor : String := "__anonymous__"

/-- `_WindowCounter`. -/
structure WindowCounter where
  windowStart : ℚ
  used : Nat

/-- The limiter with the present reading of its clock. -/
structure FixedWindowRateLimiter where
  clock : ℚ
  counters : String × String → Option WindowCounter

namespace FixedWindowRateLimiter

def new (clock : ℚ) : FixedWindowRateLimiter := ⟨clock, fun _ => none⟩

/-- The counter that a call meets: the one of its window, or that of a window it opens. -/
def windowOf (rateLimit : ToolRateLimit) (now : ℚ) : Option WindowCounter → WindowCounter
  | none => ⟨now, 0⟩
  | some counter =>
    if (rateLimit.windowSeconds : ℚ) ≤ now - counter.windowStart then ⟨now, 0⟩ else counter

/-- The verdict on a call that meets the counter, and the counter after it. -/
def verdictOf (rateLimit : ToolRateLimit) (now : ℚ) (counter : WindowCounter) :
    RateLimitVerdict × WindowCounter :=
  if rateLimit.maxCalls ≤ counter.used then
    ({ allowed := false
       remaining := 0
       retryAfterSeconds :=
        max 1 ⌈(rateLimit.windowSeconds : ℚ) - (now - counter.windowStart)⌉ }, counter)
  else
    ({ allowed := true
       remaining := (rateLimit.maxCalls : Int) - (counter.used + 1 : Nat)
       retryAfterSeconds := 0 }, { counter with used := counter.used + 1 })

/-- `try_consume`. -/
def tryConsume : RateLimiterPort FixedWindowRateLimiter := fun actor toolName rateLimit limiter =>
  let key := (actor.getD anonymousActor, toolName)
  let counter := windowOf rateLimit limiter.clock (limiter.counters key)
  let (verdict, counter) := verdictOf rateLimit limiter.clock counter
  ({ limiter with counters := Function.update limiter.counters key (some counter) }, verdict)

/-- Two limiters whose counters for an actor are the same. -/
def SameCounters (actor : String) (limiter limiter' : FixedWindowRateLimiter) : Prop :=
  ∀ toolName, limiter.counters (actor, toolName) = limiter'.counters (actor, toolName)

theorem SameCounters.refl (actor : String) (limiter : FixedWindowRateLimiter) :
    SameCounters actor limiter limiter :=
  fun _ => rfl

theorem SameCounters.symm {actor : String} {limiter limiter' : FixedWindowRateLimiter}
    (h : SameCounters actor limiter limiter') : SameCounters actor limiter' limiter :=
  fun toolName => (h toolName).symm

/-- A call of another actor leaves the counters alone. -/
theorem sameCounters_tryConsume {actor other : String} (hne : other ≠ actor) (toolName : String)
    (rateLimit : ToolRateLimit) {limiter limiter' : FixedWindowRateLimiter}
    (h : SameCounters actor limiter limiter') :
    SameCounters actor (tryConsume (some other) toolName rateLimit limiter).1 limiter' := by
  intro toolName'
  have hkey : (actor, toolName') ≠ (other, toolName) := by
    intro heq
    exact hne (congrArg Prod.fst heq).symm
  rw [← h toolName']
  exact Function.update_of_ne hkey _ _

/-- The verdict on a call of the actor, and the counters after it, come from the actor's counters
and the clock. -/
theorem tryConsume_congr {actor : String} (toolName : String) (rateLimit : ToolRateLimit)
    {limiter limiter' : FixedWindowRateLimiter} (hclock : limiter.clock = limiter'.clock)
    (h : SameCounters actor limiter limiter') :
    (tryConsume (some actor) toolName rateLimit limiter).2 =
        (tryConsume (some actor) toolName rateLimit limiter').2 ∧
      SameCounters actor (tryConsume (some actor) toolName rateLimit limiter).1
        (tryConsume (some actor) toolName rateLimit limiter').1 := by
  have hcounter : limiter.counters (actor, toolName) = limiter'.counters (actor, toolName) :=
    h toolName
  unfold tryConsume
  simp only [Option.getD_some, hclock, hcounter, true_and]
  intro toolName'
  dsimp only
  by_cases hname : toolName' = toolName
  · subst hname
    rw [Function.update_self, Function.update_self]
  · have hkey : (actor, toolName') ≠ (actor, toolName) := by simp [hname]
    rw [Function.update_of_ne hkey, Function.update_of_ne hkey]
    exact h toolName'

end FixedWindowRateLimiter

/-! ## Timed calls -/

structure TimedCall where
  time : ℚ
  toolName : String
  payload : Payload
  ctx : AuthorizationContext
  conversationId : Option Uuid := none

/-- What the caller sees of a call: the limiter's verdict, when it comes to the limiter, what
`invoke` returns or raises, and the events of the call. -/
structure Observation where
  verdict : Option RateLimitVerdict
  outcome : Except PyError ToolCallRecord
  events : List GatewayEvent

/-- The verdict on a call in a state of the limiter. -/
def verdictOn {L : Type} (gateway : ToolGateway W L) (call : TimedCall) (limiter : L) :
    Option RateLimitVerdict :=
  match admission gateway call.toolName call.payload call.ctx call.conversationId with
  | .error _ => none
  | .ok (registration, _) =>
    match registration.definition.rateLimit, gateway.rateLimiter with
    | some rateLimit, some tryConsume =>
      some (tryConsume (some call.ctx.userId.str) registration.definition.name rateLimit limiter).2
    | _, _ => none

/-- The state at the time of a call: the clock has moved on. -/
def GatewayState.at (s : GatewayState W FixedWindowRateLimiter) (time : ℚ) :
    GatewayState W FixedWindowRateLimiter :=
  { s with limiter := { s.limiter with clock := time }, log := [] }

/-- One timed call. -/
def TimedCall.invoke (gateway : ToolGateway W FixedWindowRateLimiter) (call : TimedCall)
    (s : GatewayState W FixedWindowRateLimiter) :
    Observation × GatewayState W FixedWindowRateLimiter :=
  let run := exec (gateway.invoke call.toolName call.payload call.ctx call.conversationId)
    (s.at call.time)
  ({ verdict := verdictOn gateway call (s.at call.time).limiter
     outcome := run.1
     events := run.2.log }, run.2)

/-! ## The limiter along a call -/

/-- Behind the rate limit nothing touches the limiter. -/
theorem limiter_executeApproved {L : Type} (gateway : ToolGateway W L)
    (registration : AssistantToolRegistration W) (actor : String) (conversationId : Option Uuid)
    (validated : Payload) (s : GatewayState W L) :
    (exec (executeApproved gateway registration actor conversationId validated) s).2.limiter =
      s.limiter := by
  let P : GatewayState W L → GatewayState W L → Prop :=
    fun s' t' => s' = t' ∧ s'.limiter = s.limiter
  have hevent : EventStable P := by
    rintro event s' t' ⟨rfl, hlimiter⟩
    exact ⟨rfl, hlimiter⟩
  have hcall : Lockstep P (callHandler registration.definition validated) := by
    rintro s' t' ⟨rfl, hlimiter⟩
    exact ⟨rfl, rfl, hlimiter⟩
  exact (lockstep_executeApproved hevent hcall gateway actor conversationId s s ⟨rfl, rfl⟩).2.2

theorem limiter_limitedCall {L : Type} (gateway : ToolGateway W L)
    (registration : AssistantToolRegistration W) (actor : String) (conversationId : Option Uuid)
    (validated : Payload) (s : GatewayState W L) :
    (exec (limitedCall gateway registration actor conversationId validated) s).2.limiter =
      limiterAfter gateway registration.definition actor s.limiter := by
  by_cases hrate : RateAllowed gateway registration.definition actor s.limiter
  · rw [exec_limitedCall_of_allowed s hrate, limiter_executeApproved]
  · obtain ⟨record, events, hexec, -⟩ :=
      @exec_limitedCall_of_refused W L gateway conversationId registration actor validated s hrate
    rw [hexec]

section Sharing

variable {gateway : ToolGateway W FixedWindowRateLimiter}

/-- A call of another actor leaves the counters of the observed one alone. -/
theorem sameCounters_invoke_of_ne
    (hlimiter : gateway.rateLimiter = some FixedWindowRateLimiter.tryConsume) {actor : Uuid}
    {call : TimedCall} (hne : call.ctx.userId ≠ actor) {s t : GatewayState W FixedWindowRateLimiter}
    (h : FixedWindowRateLimiter.SameCounters actor.str s.limiter t.limiter) :
    FixedWindowRateLimiter.SameCounters actor.str (call.invoke gateway s).2.limiter t.limiter := by
  unfold TimedCall.invoke
  dsimp only
  rw [exec_invoke]
  rcases admission gateway call.toolName call.payload call.ctx call.conversationId with
    ⟨e, events⟩ | ⟨registration, validated⟩
  · exact h
  · dsimp only
    rw [limiter_limitedCall]
    unfold limiterAfter
    cases registration.definition.rateLimit with
    | none => exact h
    | some rateLimit =>
      have hother : call.ctx.userId.str ≠ actor.str := fun heq => hne (Uuid.str_injective heq)
      rw [hlimiter]
      exact FixedWindowRateLimiter.sameCounters_tryConsume hother _ _ h

/-- A call that a gate before the limiter refuses leaves every counter alone. -/
theorem counters_invoke_of_refused {call : TimedCall} {refusal : PyError × List GatewayEvent}
    (hrefused : admission gateway call.toolName call.payload call.ctx call.conversationId =
      .error refusal) (s : GatewayState W FixedWindowRateLimiter) :
    (call.invoke gateway s).2.limiter.counters = s.limiter.counters := by
  unfold TimedCall.invoke
  dsimp only
  rw [exec_invoke, hrefused]
  rfl

/-- What a call of the actor depends on. -/
structure SameView (actor : String) (s t : GatewayState W FixedWindowRateLimiter) : Prop where
  clock : s.limiter.clock = t.limiter.clock
  counters : FixedWindowRateLimiter.SameCounters actor s.limiter t.limiter
  log : s.log = t.log

theorem SameView.eventStable (actor : String) :
    EventStable (SameView actor : GatewayState W FixedWindowRateLimiter → _ → Prop) :=
  fun _ _ _ h => ⟨h.clock, h.counters, by simp only [h.log]⟩

theorem sameView_callHandler {tool : ToolDefinition W} (hpure : PureHandler tool) (actor : String)
    (payload : Payload) :
    Lockstep (SameView actor) (callHandler tool payload : GatewayM W FixedWindowRateLimiter _) := by
  intro s t h
  have houtcome := hpure payload s.world t.world
  rw [exec_callHandler, exec_callHandler]
  exact ⟨by rw [houtcome], h.clock, h.counters, by simp only [houtcome, h.log]⟩

theorem sameView_consumeRate
    (hlimiter : gateway.rateLimiter = some FixedWindowRateLimiter.tryConsume) (actor : String)
    (tool : ToolDefinition W) : Lockstep (SameView actor) (consumeRate gateway tool actor) := by
  intro s t h
  rw [exec_consumeRate, exec_consumeRate, hlimiter]
  cases tool.rateLimit with
  | none => exact ⟨rfl, h⟩
  | some rateLimit =>
    obtain ⟨hverdict, hcounters⟩ :=
      FixedWindowRateLimiter.tryConsume_congr tool.name rateLimit h.clock h.counters
    dsimp only
    rw [hverdict]
    exact ⟨rfl, h.clock, hcounters, h.log⟩

theorem sameView_limitedCall
    (hlimiter : gateway.rateLimiter = some FixedWindowRateLimiter.tryConsume) (actor : String)
    {registration : AssistantToolRegistration W} (hpure : PureHandler registration.definition)
    (conversationId : Option Uuid) (validated : Payload) :
    Lockstep (SameView actor)
      (limitedCall gateway registration actor conversationId validated) := by
  have hevent : EventStable (SameView actor : GatewayState W _ → _ → Prop) :=
    SameView.eventStable actor
  have happroved := lockstep_executeApproved hevent (sameView_callHandler hpure actor validated)
    gateway actor conversationId
  unfold limitedCall
  refine lockstep_bind (sameView_consumeRate hlimiter actor registration.definition) ?_
  intro verdict
  cases verdict with
  | none => exact happroved
  | some verdict =>
    obtain ⟨rateLimit, verdict⟩ := verdict
    refine lockstep_ite (fun _ => ?_) (fun _ => happroved)
    exact lockstep_bind (lockstep_emit hevent _)
      (fun _ => lockstep_bind (lockstep_emit hevent _) (fun _ => lockstep_pure _))

/-- A call of the actor sees the same in both states, and leaves the same counters. -/
theorem sameView_invoke (hlimiter : gateway.rateLimiter = some FixedWindowRateLimiter.tryConsume)
    (hpure : ∀ toolName registration, gateway.registry.get toolName = some registration →
      PureHandler registration.definition) (call : TimedCall)
    {s t : GatewayState W FixedWindowRateLimiter}
    (h : FixedWindowRateLimiter.SameCounters call.ctx.userId.str s.limiter t.limiter) :
    (call.invoke gateway s).1 = (call.invoke gateway t).1 ∧
      FixedWindowRateLimiter.SameCounters call.ctx.userId.str (call.invoke gateway s).2.limiter
        (call.invoke gateway t).2.limiter := by
  have hview : SameView call.ctx.userId.str (s.at call.time) (t.at call.time) := ⟨rfl, h, rfl⟩
  unfold TimedCall.invoke verdictOn
  dsimp only
  rw [exec_invoke, exec_invoke]
  cases hadmission : admission gateway call.toolName call.payload call.ctx call.conversationId with
  | error refusal => exact ⟨rfl, h⟩
  | ok admitted =>
    obtain ⟨registration, validated⟩ := admitted
    obtain ⟨hget, -⟩ := admission_eq_ok_iff.mp hadmission
    obtain ⟨houtcome, hafter⟩ := sameView_limitedCall hlimiter call.ctx.userId.str
      (hpure call.toolName registration hget) call.conversationId validated _ _ hview
    dsimp only
    rw [houtcome, hafter.log, hlimiter]
    refine ⟨?_, hafter.counters⟩
    cases registration.definition.rateLimit with
    | none => rfl
    | some rateLimit =>
      obtain ⟨hverdict, -⟩ := FixedWindowRateLimiter.tryConsume_congr
        registration.definition.name rateLimit hview.clock hview.counters
      simp only [hverdict]

end Sharing

/-! ## Actors who share a limiter -/

/-- The call is made by the user. -/
def TimedCall.madeBy (actor : Uuid) (call : TimedCall) : Bool := decide (call.ctx.userId = actor)

/-- The call passes the gates before the rate limit: the registry, the site scope, the input model
and the permission. -/
def TimedCall.admitted {L : Type} (gateway : ToolGateway W L) (call : TimedCall) : Bool :=
  (admission gateway call.toolName call.payload call.ctx call.conversationId).isOk

section Uncoupled

variable {gateway : ToolGateway W FixedWindowRateLimiter}
  (hlimiter : gateway.rateLimiter = some FixedWindowRateLimiter.tryConsume)
  (hpure : ∀ toolName registration, gateway.registry.get toolName = some registration →
    PureHandler registration.definition)
  (actor : Uuid)

include hlimiter hpure

/-- Equal counters of the actor survive every call that both runs take, and settle the actor's
answers. -/
theorem unwinding_sameCounters (keep : TimedCall → Bool)
    (hkeep : ∀ call, keep call = false → call.madeBy actor = false ∨
      call.admitted gateway = false) :
    Unwinding (TimedCall.invoke gateway) keep (TimedCall.madeBy actor)
      (fun s t => FixedWindowRateLimiter.SameCounters actor.str s.limiter t.limiter) where
  left_out := by
    intro call s t hout h
    by_cases hmine : call.ctx.userId = actor
    · -- the actor's own call, so a gate refused it
      have hrefused : call.admitted gateway = false := by
        rcases hkeep call hout with hother | hrefused
        · exact absurd hmine (of_decide_eq_false hother)
        · exact hrefused
      unfold TimedCall.admitted at hrefused
      cases hadmission : admission gateway call.toolName call.payload call.ctx
        call.conversationId with
      | ok admitted =>
        rw [hadmission] at hrefused
        cases hrefused
      | error refusal =>
        intro toolName
        rw [counters_invoke_of_refused hadmission s]
        exact h toolName
    · exact sameCounters_invoke_of_ne hlimiter hmine h
  taken := by
    intro call s t _ h
    by_cases hmine : call.ctx.userId = actor
    · subst hmine
      exact (sameView_invoke hlimiter hpure call h).2
    · have hleft := sameCounters_invoke_of_ne hlimiter hmine h
      exact (sameCounters_invoke_of_ne hlimiter hmine hleft.symm).symm
  answer_eq := by
    intro call s t _ hmine h
    obtain rfl : call.ctx.userId = actor := of_decide_eq_true hmine
    exact (sameView_invoke hlimiter hpure call h).1

/-- What an actor sees of a run is what it sees without the calls of the others, and what it sees
without its own calls that a gate before the rate limit refuses. -/
theorem actors_uncoupled (calls : List TimedCall) (s : GatewayState W FixedWindowRateLimiter) :
    (answers (TimedCall.invoke gateway) calls s).filter (fun answer => answer.1.madeBy actor) =
        answers (TimedCall.invoke gateway) (calls.filter (TimedCall.madeBy actor)) s ∧
      (answers (TimedCall.invoke gateway) calls s).filter
          (fun answer => answer.1.madeBy actor && answer.1.admitted gateway) =
        (answers (TimedCall.invoke gateway)
          (calls.filter fun call => !call.madeBy actor || call.admitted gateway) s).filter
          (fun answer => answer.1.madeBy actor) := by
  constructor
  · have hunwinding := unwinding_sameCounters hlimiter hpure actor (TimedCall.madeBy actor)
      (fun _ hout => Or.inl hout)
    exact hunwinding.answers_filter_seen calls (.refl actor.str s.limiter)
  · have hunwinding := unwinding_sameCounters hlimiter hpure actor
      (fun call => !call.madeBy actor || call.admitted gateway) (by
        intro call hout
        exact Or.inr (Bool.or_eq_false_iff.mp hout).2)
    have hanswers := hunwinding.answers_filter calls (.refl actor.str s.limiter)
    rw [← hanswers]
    apply List.filter_congr
    intro answer _
    cases answer.1.madeBy actor <;> simp

end Uncoupled

/-- A tool with one call a minute. -/
def scarceTool : ToolDefinition Nat where
  name := "web_search"
  description := "Search the web"
  inputModel := { name := "SearchWebInput", extra := some "forbid", modelValidate := .ok }
  outputModel := .ok
  handler payload calls := (calls + 1, .ok payload)
  requiredPermission := .webSearch
  rateLimit := some ⟨1, 60, le_rfl, ToolRateLimit.one_le_minute⟩

def scarceGateway : ToolGateway Nat FixedWindowRateLimiter where
  registry :=
    ⟨[("web_search", ⟨scarceTool, fun _ _ => .ok [.actionRequired {
      evidenceId := "web", action := "Read", reason := "found" }]⟩)], by simp [scarceTool]⟩
  permissionChecker := defaultPermissionChecker
  approvalService := none
  rateLimiter := some FixedWindowRateLimiter.tryConsume

theorem scarceGateway_pure (toolName : String) (registration : AssistantToolRegistration Nat)
    (h : scarceGateway.registry.get toolName = some registration) :
    PureHandler registration.definition := by
  have hmem := ToolRegistry.mem_registrations_of_get h
  obtain ⟨-, rfl⟩ := Prod.ext_iff.mp (List.mem_singleton.mp hmem)
  intro payload w w'
  rfl

/-- Two users call in turn, one of them twice within a minute. -/
def scarceCalls : List TimedCall :=
  [⟨0, "web_search", [], { flakyActor with userId := Uuid.ofNat 2 }, none⟩,
    ⟨1, "web_search", [], flakyActor, none⟩, ⟨2, "web_search", [], flakyActor, none⟩]

theorem actors_uncoupled_scarce :
    (answers (TimedCall.invoke scarceGateway) scarceCalls ⟨0, .new 0, []⟩).filter
        (fun answer => answer.1.madeBy (Uuid.ofNat 1)) =
      answers (TimedCall.invoke scarceGateway)
        (scarceCalls.filter (TimedCall.madeBy (Uuid.ofNat 1)))
        ⟨0, .new 0, []⟩ :=
  (actors_uncoupled rfl scarceGateway_pure (Uuid.ofNat 1) scarceCalls ⟨0, .new 0, []⟩).1

end HotAirBalloon.Gateway
