import HotAirBalloon.Kernel.ResponseEvidence
import HotAirBalloon.User.Authorization

/-!
# Tools, audit and trace

The data of `tool_gateway/domain.py`, `registry.py`, `policy.py` and `permissions.py`, and
the outcome types of `assistant/domain/entities.py` that the gateway builds.

A handler acts on a world `W` (the database and whatever else it reaches), so two attempts
with one payload may end differently. A validated pydantic model is represented by its
`model_dump(mode="json")`, which is all the gateway and the adapters read of it.
-/

namespace HotAirBalloon.Gateway

open Python Kernel User

/-- `dict[str, Any]`. -/
abbrev Payload := Dict Value

inductive ToolApprovalDecision where
  | approved
  | rejected
  | approvalRequired
  | rateLimited
  deriving DecidableEq

def ToolApprovalDecision.value : ToolApprovalDecision → String
  | approved => "approved"
  | rejected => "rejected"
  | approvalRequired => "approval_required"
  | rateLimited => "rate_limit"

inductive ToolOutcomeStatus where
  | success
  | approvalRequired
  | rateLimited
  | failed
  deriving DecidableEq

def ToolOutcomeStatus.value : ToolOutcomeStatus → String
  | success => "success"
  | approvalRequired => "approval_required"
  | rateLimited => "rate_limited"
  | failed => "failed"

inductive SideEffectType where
  | read
  | write
  deriving DecidableEq

/-- `ToolRateLimit`; its `__post_init__` rejects limits below one. -/
structure ToolRateLimit where
  maxCalls : Nat
  windowSeconds : Nat
  one_le_maxCalls : 1 ≤ maxCalls
  one_le_windowSeconds : 1 ≤ windowSeconds

/-- A window of a minute. -/
theorem ToolRateLimit.one_le_minute : 1 ≤ 60 := by decide

structure RateLimitVerdict where
  allowed : Bool
  remaining : Int
  retryAfterSeconds : Int
  deriving DecidableEq

/-- An input model: its `model_config["extra"]` and its validation, up to the dump of the
validated model. -/
structure InputModel where
  name : String
  extra : Option String
  modelValidate : Payload → Except PyError Payload

/-- `validate_strict_input(model, payload)`, up to the dump of the validated model. -/
def validateStrictInput (model : InputModel) (payload : Payload) : Except PyError Payload :=
  if model.extra = some "forbid" then model.modelValidate payload
  else throw (PyError.typeError (model.name ++
    " must set model_config = ConfigDict(extra='forbid') " ++
    "so unknown args are rejected before handler execution"))

structure ToolDefinition (W : Type) where
  name : String
  description : String
  inputModel : InputModel
  /-- `output_model.model_validate(raw_output)`, up to the dump of the validated model. -/
  outputModel : Payload → Except PyError Payload
  handler : Payload → W → W × Except PyError Payload
  requiredPermission : Permission
  siteCodeField : Option String := none
  requiresApproval : Bool := false
  maxRetries : Nat := 0
  rateLimit : Option ToolRateLimit := none
  sideEffectType : SideEffectType := .read

structure ToolAuditRecord where
  toolName : String
  actor : Option String
  payload : Payload
  decision : ToolApprovalDecision
  conversationId : Option Uuid := none
  reason : Option String := none

structure ToolTraceEvent where
  toolName : String
  actor : Option String
  event : String
  payload : Payload
  conversationId : Option Uuid := none

/-- `to_evidence(applied_payload=…, output=…)` on the dump of the output model. -/
abbrev ToolResultAdapter := Payload → Payload → Except PyError (List EvidenceBlock)

structure AssistantToolRegistration (W : Type) where
  definition : ToolDefinition W
  resultAdapter : ToolResultAdapter

structure ToolCallRecord where
  toolName : String
  payload : Payload
  status : ToolOutcomeStatus
  evidence : List EvidenceBlock
  result : Payload

/-- A registry: its registrations under the names of their definitions. -/
structure ToolRegistry (W : Type) where
  registrations : Dict (AssistantToolRegistration W)
  named : ∀ item ∈ registrations, item.2.definition.name = item.1

namespace ToolRegistry

variable {W : Type}

def empty : ToolRegistry W := ⟨[], by simp⟩

/-- `register`; a name that is taken is a `ValueError`. -/
def register (registry : ToolRegistry W) (registration : AssistantToolRegistration W) :
    Except PyError (ToolRegistry W) :=
  if registry.registrations.contains registration.definition.name then
    throw (PyError.valueError ("tool already registered: " ++ registration.definition.name))
  else
    return {
      registrations := registry.registrations ++ [(registration.definition.name, registration)]
      named := by
        intro item hitem
        rcases List.mem_append.mp hitem with h | h
        · exact registry.named item h
        · rw [List.mem_singleton.mp h] }

def get (registry : ToolRegistry W) (toolName : String) : Option (AssistantToolRegistration W) :=
  registry.registrations.get? toolName

/-- `list_registrations`: in the order of their names. -/
def listRegistrations (registry : ToolRegistry W) : List (AssistantToolRegistration W) :=
  (registry.registrations.mergeSort fun a b => decide (a.1 ≤ b.1)).map Prod.snd

theorem mem_registrations_of_get {registry : ToolRegistry W} {toolName : String}
    {registration : AssistantToolRegistration W} (h : registry.get toolName = some registration) :
    (toolName, registration) ∈ registry.registrations := by
  unfold get Dict.get? at h
  generalize registry.registrations = items at h ⊢
  induction items with
  | nil => cases h
  | cons item rest ih =>
    obtain ⟨k, v⟩ := item
    rw [List.lookup_cons] at h
    split at h
    · rename_i hk
      cases h
      rw [eq_of_beq hk]
      exact List.mem_cons_self
    · exact List.mem_cons_of_mem _ (ih h)

theorem mem_listRegistrations {registry : ToolRegistry W} {toolName : String}
    {registration : AssistantToolRegistration W} (h : registry.get toolName = some registration) :
    registration ∈ registry.listRegistrations := by
  have hmem := mem_registrations_of_get h
  exact List.mem_map.mpr ⟨_, List.mem_mergeSort.mpr hmem, rfl⟩

theorem name_of_get {registry : ToolRegistry W} {toolName : String}
    {registration : AssistantToolRegistration W} (h : registry.get toolName = some registration) :
    registration.definition.name = toolName := by
  have hmem := mem_registrations_of_get h
  exact registry.named _ hmem

end ToolRegistry

/-- `PermissionChecker.can_call`. -/
abbrev PermissionChecker := AuthorizationContext → Permission → Option String → Bool

/-- `DefaultPermissionChecker.can_call`. -/
def defaultPermissionChecker : PermissionChecker := fun ctx permission siteCode =>
  ctx.can permission siteCode

/-- `evaluate(tool_name=…, actor=…, payload=…)` of an approval service. -/
abbrev ApprovalService := String → Option String → Payload → Except PyError ToolApprovalDecision

/-- `PolicyApprovalService(allow_write_tools=…).evaluate`. -/
def policyApprovalService (allowWriteTools : Bool) : ApprovalService := fun toolName _ _ =>
  if (toolName.startsWith "write_" || toolName.endsWith "_write") && !allowWriteTools then
    return .approvalRequired
  else return .approved

/-- `RateLimiterPort.try_consume`, on the limiter's own state. -/
abbrev RateLimiterPort (L : Type) :=
  Option String → String → ToolRateLimit → L → L × RateLimitVerdict

end HotAirBalloon.Gateway
