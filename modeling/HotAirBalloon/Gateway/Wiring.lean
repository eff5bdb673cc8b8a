import HotAirBalloon.Gateway.Stages

/-!
# The gateway as it is wired

`build_tool_gateway` of `tool_gateway/wiring.py`: the default permission checker, the approval
policy and a rate limiter. When write tools are not allowed the policy stops a tool by its name, and
only a tool whose registration asks for approval is put to it. The declared side effect of a tool is
not looked at, so a tool that writes is stopped only where its flag and its name say so too.
-/

namespace HotAirBalloon.Gateway

open Python Kernel User

variable {W L : Type}

/-- `build_tool_gateway`, up to the sinks. -/
def buildToolGateway (registry : ToolRegistry W) (allowWriteTools : Bool)
    (rateLimiter : RateLimiterPort L) : ToolGateway W L where
  registry := registry
  permissionChecker := defaultPermissionChecker
  approvalService := some (policyApprovalService allowWriteTools)
  rateLimiter := some rateLimiter

/-! ## What the policy stops -/

/-- The names that `PolicyApprovalService` takes for write tools. -/
def namedAsWrite (toolName : String) : Bool :=
  toolName.startsWith "write_" || toolName.endsWith "_write"

/-- The policy is asked about the tool, and takes its name for a write tool's. -/
def StoppedByPolicy (tool : ToolDefinition W) : Prop :=
  tool.requiresApproval = true ∧ namedAsWrite tool.name = true

theorem policyApprovalService_false (toolName : String) (actor : Option String)
    (payload : Payload) : policyApprovalService false toolName actor payload =
      if namedAsWrite toolName then .ok .approvalRequired else .ok .approved := by
  unfold policyApprovalService namedAsWrite
  simp only [Bool.not_false, Bool.and_true]
  rfl

theorem approval_buildToolGateway_iff (registry : ToolRegistry W) (rateLimiter : RateLimiterPort L)
    (tool : ToolDefinition W) (actor : String) (validated : Payload) :
    approval (buildToolGateway registry false rateLimiter) tool actor validated =
        .ok (.approved, none) ↔ ¬ StoppedByPolicy tool := by
  unfold approval StoppedByPolicy buildToolGateway
  cases happroval : tool.requiresApproval with
  | false => simp
  | true =>
    simp only [if_true, policyApprovalService_false, true_and]
    cases hname : namedAsWrite tool.name with
    | false => simp
    | true => simp

/-- With write tools allowed the policy approves every call. -/
theorem approval_buildToolGateway_true (registry : ToolRegistry W) (rateLimiter : RateLimiterPort L)
    (tool : ToolDefinition W) (actor : String) (validated : Payload) :
    approval (buildToolGateway registry true rateLimiter) tool actor validated =
      .ok (.approved, none) := by
  have hpolicy : policyApprovalService true tool.name (some actor) validated = .ok .approved := by
    unfold policyApprovalService
    simp only [Bool.not_true, Bool.and_false]
    rfl
  unfold approval buildToolGateway
  cases tool.requiresApproval with
  | false => rfl
  | true => simp only [if_true, hpolicy]

/-! ## Write tools -/

/-- Without permission for write tools, an invocation does not run the handler of a write tool. -/
def WritesBlocked (registry : ToolRegistry W) (rateLimiter : RateLimiterPort L) (toolName : String)
    (payload : Payload) (ctx : AuthorizationContext) (conversationId : Option Uuid)
    (s : GatewayState W L) : Prop :=
  ∀ registration, registry.get toolName = some registration →
    registration.definition.sideEffectType = .write →
    ¬ RunsHandler (buildToolGateway registry false rateLimiter)
      toolName payload ctx conversationId s

/-- An earlier gate refuses the call: site scope, input model, permission or rate limit. -/
def RefusedBefore (registry : ToolRegistry W) (rateLimiter : RateLimiterPort L) (toolName : String)
    (payload : Payload) (ctx : AuthorizationContext) (conversationId : Option Uuid)
    (limiter : L) : Prop :=
  ∀ registration validated,
    admission (buildToolGateway registry false rateLimiter) toolName payload ctx conversationId =
      .ok (registration, validated) →
    ¬ RateAllowed (buildToolGateway registry false rateLimiter) registration.definition
      ctx.userId.str limiter

/-- A write tool is blocked exactly when its registration asks for approval and its name is a write
tool's, or the call never comes to the approval. -/
theorem writesBlocked_iff (registry : ToolRegistry W) (rateLimiter : RateLimiterPort L)
    (toolName : String) (payload : Payload) (ctx : AuthorizationContext)
    (conversationId : Option Uuid) (s : GatewayState W L) :
    WritesBlocked registry rateLimiter toolName payload ctx conversationId s ↔
      ∀ registration, registry.get toolName = some registration →
        registration.definition.sideEffectType = .write →
        StoppedByPolicy registration.definition ∨
          RefusedBefore registry rateLimiter toolName payload ctx conversationId s.limiter := by
  constructor
  · intro hblocked registration hget hwrite
    by_cases hstopped : StoppedByPolicy registration.definition
    · exact Or.inl hstopped
    · refine Or.inr ?_
      intro registration' validated hadmission hrate
      obtain ⟨hget', -⟩ := admission_eq_ok_iff.mp hadmission
      obtain rfl : registration = registration' := Option.some.inj (hget.symm.trans hget')
      apply hblocked registration hget hwrite
      have happroved := (approval_buildToolGateway_iff registry rateLimiter registration.definition
        ctx.userId.str validated).mpr hstopped
      exact runsHandler_iff.mpr ⟨registration, validated, hadmission, hrate, happroved⟩
  · intro hcond registration hget hwrite hruns
    obtain ⟨registration', validated, hadmission, hrate, happroved⟩ := runsHandler_iff.mp hruns
    obtain ⟨hget', -⟩ := admission_eq_ok_iff.mp hadmission
    obtain rfl : registration = registration' := Option.some.inj (hget.symm.trans hget')
    rcases hcond registration hget hwrite with hstopped | hrefused
    · exact (approval_buildToolGateway_iff registry rateLimiter registration.definition
        ctx.userId.str validated).mp happroved hstopped
    · exact hrefused registration validated hadmission hrate

/-- A tool that writes and asks for approval, under a name the policy does not know. -/
def manageUsersTool : ToolDefinition Nat where
  name := "manage_users"
  description := "Manage users"
  inputModel := { name := "ManageUsersInput", extra := some "forbid", modelValidate := .ok }
  outputModel := .ok
  handler payload users := (users + 1, .ok payload)
  requiredPermission := .usersManage
  requiresApproval := true
  sideEffectType := .write

def manageUsersRegistry : ToolRegistry Nat :=
  ⟨[("manage_users", ⟨manageUsersTool, fun _ _ => .ok [.actionRequired {
    evidenceId := "users", action := "Review", reason := "changed" }]⟩)], by simp [manageUsersTool]⟩

def administrator : AuthorizationContext where
  userId := Uuid.ofNat 1
  roles := [.systemAdministrator]
  globalScope := true

/-- A limiter that allows everything. -/
def unlimited : RateLimiterPort Unit := fun _ _ _ limiter =>
  (limiter, { allowed := true, remaining := 1, retryAfterSeconds := 0 })

/-- The write handler runs although write tools are not allowed. -/
theorem manageUsers_not_blocked :
    ¬ WritesBlocked manageUsersRegistry unlimited "manage_users" [] administrator none
      ⟨0, (), []⟩ := by
  intro hblocked
  have hruns : RunsHandler (buildToolGateway manageUsersRegistry false unlimited) "manage_users" []
      administrator none ⟨0, (), []⟩ := by
    decide +kernel
  exact hblocked ⟨manageUsersTool, _⟩ rfl rfl hruns

end HotAirBalloon.Gateway
