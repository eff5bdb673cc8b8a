import HotAirBalloon.Agent.SemanticValidation
import HotAirBalloon.Gateway.Wiring

/-!
# Discovery

`GatewayToolRuntime.list_tools` of `tool_runtime/gateway_runtime.py`. A tool is listed for an actor
who has its permission on no site in particular, and some site where the tool wants one. An
invocation decides otherwise: it fills in a site, validates, and asks for the permission on the site
of the validated payload. What it lets through is listed.
-/

namespace HotAirBalloon.Gateway

open Python Kernel User
open Agent (ToolDescriptor)

variable {W L : Type}

structure GatewayToolRuntime (W L : Type) where
  registry : ToolRegistry W
  allowWriteTools : Bool := false
  rateLimiter : RateLimiterPort L

/-- The gateway that `invoke` builds. -/
def GatewayToolRuntime.gateway (runtime : GatewayToolRuntime W L) : ToolGateway W L :=
  buildToolGateway runtime.registry runtime.allowWriteTools runtime.rateLimiter

def hasUsableSiteScope (tool : ToolDefinition W) (ctx : AuthorizationContext) : Bool :=
  tool.siteCodeField.isNone || ctx.globalScope || !ctx.siteCodes.isEmpty

/-- The descriptor of a tool, given `model_json_schema()` of the input models. -/
def toolDescriptor (modelJsonSchema : InputModel → Payload) (tool : ToolDefinition W) :
    ToolDescriptor where
  name := tool.name
  description := tool.description
  inputSchema := modelJsonSchema tool.inputModel
  siteCodeField := tool.siteCodeField
  isMutating := decide (tool.sideEffectType = .write)

/-- `list_tools`. -/
def GatewayToolRuntime.listTools (runtime : GatewayToolRuntime W L)
    (modelJsonSchema : InputModel → Payload) (ctx : AuthorizationContext) : List ToolDescriptor :=
  runtime.registry.listRegistrations.filterMap fun registration =>
    let tool := registration.definition
    if !ctx.can tool.requiredPermission none then none
    else if !hasUsableSiteScope tool ctx then none
    else some (toolDescriptor modelJsonSchema tool)

/-! ## What an admitted call says about the actor -/

/-- A permission on a site is a permission. -/
theorem can_none_of_can {ctx : AuthorizationContext} {permission : Permission}
    {siteCode : Option String} (h : ctx.can permission siteCode = true) :
    ctx.can permission none = true := by
  unfold AuthorizationContext.can at h ⊢
  by_cases hpermission : permission ∈ ctx.permissions
  · simp [hpermission]
  · simp [hpermission] at h

/-- A payload with a value other than `None` for a field. -/
def SiteGiven (payload : Payload) (field : String) : Prop :=
  ∃ value, payload.get? field = some value ∧ value.isNone = false

/-- The input models of a registry keep a site value that is not `None`. -/
def KeepsSiteValue (registry : ToolRegistry W) : Prop :=
  ∀ toolName registration field, registry.get toolName = some registration →
    registration.definition.siteCodeField = some field →
    ∀ payload validated, registration.definition.inputModel.modelValidate payload = .ok validated →
      SiteGiven payload field → SiteGiven validated field

theorem modelValidate_of_validateStrictInput {model : InputModel} {payload validated : Payload}
    (h : validateStrictInput model payload = .ok validated) :
    model.modelValidate payload = .ok validated := by
  unfold validateStrictInput at h
  split at h
  · exact h
  · cases h

/-- Without global scope the scoped payload has a site, or the actor has one. -/
theorem siteGiven_of_siteScope {tool : ToolDefinition W} {ctx : AuthorizationContext}
    {payload scopedPayload : Payload} {field : String} (hfield : tool.siteCodeField = some field)
    (hscope : ctx.globalScope = false) (h : siteScope tool ctx payload = .ok scopedPayload) :
    SiteGiven scopedPayload field ∨ ctx.siteCodes ≠ [] := by
  have hfill : siteScope.fillIn ctx payload field = .ok scopedPayload → ctx.siteCodes ≠ [] := by
    intro hfilled hnil
    unfold siteScope.fillIn at hfilled
    rw [hnil] at hfilled
    cases hfilled
  unfold siteScope at h
  rw [hfield] at h
  simp only [hscope, Bool.false_eq_true, if_false] at h
  cases hvalue : payload.get? field with
  | none =>
    rw [hvalue] at h
    exact Or.inr (hfill h)
  | some requested =>
    rw [hvalue] at h
    dsimp only at h
    cases hnone : requested.isNone with
    | true =>
      rw [hnone, if_pos rfl] at h
      exact Or.inr (hfill h)
    | false =>
      rw [hnone, if_neg Bool.false_ne_true] at h
      cases h
      exact Or.inl ⟨requested, hvalue, hnone⟩

/-- The site of a validated payload that has one. -/
theorem siteCodeOf_of_siteGiven {tool : ToolDefinition W} {validated : Payload} {field : String}
    {siteCode : Option String} (hfield : tool.siteCodeField = some field)
    (hgiven : SiteGiven validated field) (h : siteCodeOf tool validated = .ok siteCode) :
    ∃ code, siteCode = some code := by
  obtain ⟨value, hvalue, hnone⟩ := hgiven
  unfold siteCodeOf at h
  rw [hfield] at h
  dsimp only at h
  rw [hvalue] at h
  cases value with
  | none => cases hnone
  | str code =>
    cases h
    exact ⟨code, rfl⟩
  | bool _ | int _ | float _ | list _ | dict _ => cases h

/-- An admitted call is the call of an actor with a usable site scope. -/
theorem hasUsableSiteScope_of_admitted {runtime : GatewayToolRuntime W L} {toolName : String}
    {payload validated : Payload} {ctx : AuthorizationContext} {conversationId : Option Uuid}
    {registration : AssistantToolRegistration W} (hkeeps : KeepsSiteValue runtime.registry)
    (h : admission runtime.gateway toolName payload ctx conversationId =
      .ok (registration, validated)) :
    hasUsableSiteScope registration.definition ctx = true := by
  obtain ⟨hget, scopedPayload, siteCode, hscope, hvalid, hsite, hperm⟩ := admission_eq_ok_iff.mp h
  unfold hasUsableSiteScope
  cases hfield : registration.definition.siteCodeField with
  | none => rfl
  | some field =>
    cases hglobal : ctx.globalScope with
    | true => simp
    | false =>
      have hsites : ctx.siteCodes ≠ [] := by
        rcases siteGiven_of_siteScope hfield hglobal hscope with hgiven | hsites
        · -- the named site is one of the actor's
          have hkept := hkeeps toolName registration field hget hfield scopedPayload validated
            (modelValidate_of_validateStrictInput hvalid) hgiven
          obtain ⟨code, rfl⟩ := siteCodeOf_of_siteGiven hfield hkept hsite
          have hmem := AuthorizationContext.mem_siteCodes_of_can hglobal hperm
          exact List.ne_nil_of_mem hmem
        · exact hsites
      simp [hsites]

/-! ## Discovery and execution -/

theorem mem_listTools {runtime : GatewayToolRuntime W L} {modelJsonSchema : InputModel → Payload}
    {ctx : AuthorizationContext} {toolName : String} {registration : AssistantToolRegistration W}
    (hget : runtime.registry.get toolName = some registration)
    (hpermission : ctx.can registration.definition.requiredPermission none = true)
    (hscope : hasUsableSiteScope registration.definition ctx = true) :
    toolDescriptor modelJsonSchema registration.definition ∈
      runtime.listTools modelJsonSchema ctx := by
  have hmem := ToolRegistry.mem_listRegistrations hget
  refine List.mem_filterMap.mpr ⟨registration, hmem, ?_⟩
  simp [hpermission, hscope]

/-- A tool whose handler runs for an actor is listed for the actor, under its name, with its site
field and its mutating flag. -/
theorem listed_of_runsHandler (runtime : GatewayToolRuntime W L)
    (modelJsonSchema : InputModel → Payload) (hkeeps : KeepsSiteValue runtime.registry)
    (toolName : String) (payload : Payload) (ctx : AuthorizationContext)
    (conversationId : Option Uuid) (s : GatewayState W L)
    (hruns : RunsHandler runtime.gateway toolName payload ctx conversationId s) :
    ∃ registration, runtime.registry.get toolName = some registration ∧
      ∃ descriptor ∈ runtime.listTools modelJsonSchema ctx,
        descriptor.name = toolName ∧
        descriptor.siteCodeField = registration.definition.siteCodeField ∧
        (descriptor.isMutating = true ↔ registration.definition.sideEffectType = .write) := by
  obtain ⟨registration, validated, hadmission, -, -⟩ := runsHandler_iff.mp hruns
  obtain ⟨hget, scopedPayload, siteCode, -, -, -, hperm⟩ := admission_eq_ok_iff.mp hadmission
  have hpermission : ctx.can registration.definition.requiredPermission none = true :=
    can_none_of_can hperm
  have hscope := hasUsableSiteScope_of_admitted hkeeps hadmission
  refine ⟨registration, hget, toolDescriptor modelJsonSchema registration.definition,
    mem_listTools hget hpermission hscope, ?_, rfl, ?_⟩
  · exact ToolRegistry.name_of_get hget
  · exact decide_eq_true_iff

def flakyRuntime : GatewayToolRuntime Nat Unit where
  registry := flakyGateway.registry
  rateLimiter := unlimited

theorem flakyRuntime_keepsSiteValue : KeepsSiteValue flakyRuntime.registry := by
  intro toolName registration field hget _ payload validated hvalid hgiven
  have hmem := ToolRegistry.mem_registrations_of_get hget
  obtain ⟨-, rfl⟩ := Prod.ext_iff.mp (List.mem_singleton.mp hmem)
  cases hvalid
  exact hgiven

/-- The actor's only site is filled in, the tool runs and is listed. -/
theorem listed_of_runsHandler_flaky :
    RunsHandler flakyRuntime.gateway "get_work_orders" [] flakyActor none ⟨0, (), []⟩ ∧
    ∃ registration, flakyRuntime.registry.get "get_work_orders" = some registration ∧
      ∃ descriptor ∈ flakyRuntime.listTools (fun _ => []) flakyActor,
        descriptor.name = "get_work_orders" ∧
        descriptor.siteCodeField = registration.definition.siteCodeField ∧
        (descriptor.isMutating = true ↔ registration.definition.sideEffectType = .write) := by
  have hruns : RunsHandler flakyRuntime.gateway "get_work_orders" [] flakyActor none
      ⟨0, (), []⟩ := by
    decide +kernel
  exact ⟨hruns, listed_of_runsHandler flakyRuntime (fun _ => []) flakyRuntime_keepsSiteValue
    "get_work_orders" [] flakyActor none ⟨0, (), []⟩ hruns⟩

end HotAirBalloon.Gateway
