import HotAirBalloon.Agent.Codes
import HotAirBalloon.Operations.ReadTools

/-!
# Calls of a resolved query

A query that the patterns resolve to a tool passes through three descriptions of that tool:
`resolve_intent` builds the payload, the semantic validator compares it with the query again, and
the input model of the tool reads it. `resolvedAccepted` says that the three agree.
-/

namespace HotAirBalloon.Operations

open Python Agent Gateway

/-! ## What a resolution holds -/

/-- The values that `resolve_intent` can put into a payload. -/
structure ResolvedValues where
  site : Option String
  limit : Option Limit
  status : Option WorkOrderStatus

namespace ResolvedValues

/-- The payload, in the order in which the fields are set. -/
def payload (values : ResolvedValues) : Payload :=
  (values.site.map (fun site => ("site_code", Value.str site))).toList ++
    (values.limit.map (fun limit => ("limit", Value.int limit.value))).toList ++
    (values.status.map (fun status => ("status", Value.str status.value))).toList

theorem get?_site (values : ResolvedValues) :
    values.payload.get? "site_code" = values.site.map .str := by
  obtain ⟨site, limit, status⟩ := values
  cases site <;> cases limit <;> cases status <;> rfl

theorem get?_limit (values : ResolvedValues) :
    values.payload.get? "limit" = values.limit.map (fun limit => .int limit.value) := by
  obtain ⟨site, limit, status⟩ := values
  cases site <;> cases limit <;> cases status <;> rfl

theorem get?_status (values : ResolvedValues) :
    values.payload.get? "status" = values.status.map (fun status => .str status.value) := by
  obtain ⟨site, limit, status⟩ := values
  cases site <;> cases limit <;> cases status <;> rfl

theorem get?_other (values : ResolvedValues) {field : String}
    (hfield : field ∉ ["site_code", "limit", "status"]) : values.payload.get? field = none := by
  simp only [List.mem_cons, List.not_mem_nil, or_false, not_or] at hfield
  obtain ⟨hsite, hlimit, hstatus⟩ := hfield
  obtain ⟨site, limit, status⟩ := values
  cases site <;> cases limit <;> cases status <;>
    simp [payload, Dict.get?_cons, hsite, hlimit, hstatus]

/-- Every value is a text or an integer. -/
theorem get?_cases (values : ResolvedValues) {field : String} {value : Value}
    (h : values.payload.get? field = some value) :
    (∃ s, value = .str s) ∨ ∃ i, value = .int i := by
  by_cases hfield : field ∈ ["site_code", "limit", "status"]
  · simp only [List.mem_cons, List.not_mem_nil, or_false] at hfield
    rcases hfield with rfl | rfl | rfl
    · rw [get?_site] at h
      obtain ⟨site, -, rfl⟩ := Option.map_eq_some_iff.mp h
      exact .inl ⟨_, rfl⟩
    · rw [get?_limit] at h
      obtain ⟨limit, -, rfl⟩ := Option.map_eq_some_iff.mp h
      exact .inr ⟨_, rfl⟩
    · rw [get?_status] at h
      obtain ⟨status, -, rfl⟩ := Option.map_eq_some_iff.mp h
      exact .inl ⟨_, rfl⟩
  · rw [get?_other values hfield] at h
    cases h

end ResolvedValues

/-- The values that belong to a tool. -/
def Fits (toolName : String) (values : ResolvedValues) : Prop :=
  toolName = "get_work_orders" ∨
    (toolName ∈ ["get_maintenance_tickets", "get_spare_parts_availability",
      "get_production_schedule"] ∧ values.status = none) ∨
    (toolName = "get_asset_status" ∧ values.limit = none ∧ values.status = none)

section

variable {py : Interpreter} {query : String}

theorem extractLimit_limit {limit : Option Int} (h : extractLimit py query = .ok limit) :
    ∃ limit' : Option Limit, limit = limit'.map (fun limit => (limit.value : Int)) := by
  unfold extractLimit at h
  split at h
  · cases h
    exact ⟨none, rfl⟩
  · rename_i m _
    cases hvalue : limitValue py (py.lower (Re.group m 1)) with
    | error e =>
      rw [hvalue] at h
      cases h
    | ok value =>
      rw [hvalue] at h
      cases h
      split
      · refine ⟨some ⟨value.toNat, by omega, by omega⟩, ?_⟩
        simp only [Option.map_some, Option.some.injEq]
        omega
      · exact ⟨none, rfl⟩

theorem extractStatus_status {status : String} (h : extractStatus py query = some status) :
    ∃ status' : WorkOrderStatus, status = status'.value := by
  obtain ⟨entry, hentry, hstatus⟩ := List.exists_of_findSome?_eq_some h
  dsimp only at hstatus
  split at hstatus
  · cases hstatus
    simp only [statusPatterns, List.mem_cons, List.not_mem_nil, or_false] at hentry
    rcases hentry with rfl | rfl | rfl | rfl | rfl
    · exact ⟨.inProgress, rfl⟩
    · exact ⟨.completed, rfl⟩
    · exact ⟨.cancelled, rfl⟩
    · exact ⟨.pending, rfl⟩
    · exact ⟨.open_, rfl⟩
  · cases hstatus

theorem sitePayload_values : sitePayload py query =
    ResolvedValues.payload ⟨extractSiteCode py query, none, none⟩ := by
  unfold sitePayload
  cases extractSiteCode py query <;> rfl

theorem commonPayload_values {payload : Payload} (h : commonPayload py query = .ok payload) :
    ∃ limit, payload = ResolvedValues.payload ⟨extractSiteCode py query, limit, none⟩ := by
  unfold commonPayload at h
  cases hlimit : extractLimit py query with
  | error e =>
    rw [hlimit] at h
    cases h
  | ok limit =>
    rw [hlimit] at h
    obtain ⟨limit, rfl⟩ := extractLimit_limit hlimit
    cases limit with
    | none =>
      cases h
      exact ⟨none, sitePayload_values⟩
    | some limit =>
      cases h
      refine ⟨some limit, ?_⟩
      rw [sitePayload_values]
      cases extractSiteCode py query <;> rfl

/-- A resolution that names a tool holds values of that tool. -/
theorem resolveIntent_values {resolution : IntentResolution} {toolName : String}
    (h : resolveIntent py query = .ok (some resolution))
    (hname : resolution.toolName = some toolName) :
    ∃ values : ResolvedValues, resolution.payload = values.payload ∧
      values.site = extractSiteCode py query ∧ Fits toolName values := by
  unfold resolveIntent at h
  split at h
  · cases h
    cases hname
  split at h
  · cases h
    cases hname
  cases hcommon : commonPayload py query with
  | error e =>
    rw [hcommon] at h
    cases h
  | ok payload =>
    rw [hcommon] at h
    obtain ⟨limit, rfl⟩ := commonPayload_values hcommon
    simp only [bind, Except.bind] at h
    split at h
    · cases h
      cases hname
      exact ⟨_, rfl, rfl, .inr (.inl ⟨by simp, rfl⟩)⟩
    split at h
    · cases h
      cases hname
      exact ⟨_, rfl, rfl, .inr (.inl ⟨by simp, rfl⟩)⟩
    split at h
    · cases h
      cases hname
      exact ⟨_, rfl, rfl, .inr (.inl ⟨by simp, rfl⟩)⟩
    split at h
    · cases h
      cases hname
      exact ⟨_, sitePayload_values, rfl, .inr (.inr ⟨rfl, rfl, rfl⟩)⟩
    split at h
    · split at h
      · rename_i status hstatus
        cases h
        cases hname
        obtain ⟨status, rfl⟩ := extractStatus_status hstatus
        refine ⟨⟨extractSiteCode py query, limit, some status⟩, ?_, rfl, .inl rfl⟩
        cases extractSiteCode py query <;> cases limit <;> rfl
      · cases h
        cases hname
        exact ⟨_, rfl, rfl, .inl rfl⟩
    · cases h

/-! ## The validator -/

theorem pyEq_self {value : Value} (h : (∃ s, value = .str s) ∨ ∃ i, value = .int i) :
    value.pyEq value = true := by
  rcases h with ⟨s, rfl⟩ | ⟨i, rfl⟩
  · simp
  · simp [Value.pyEq_int]

theorem canonicalEntity_cases (py : Interpreter) (field : String) {value : Value}
    (h : (∃ s, value = .str s) ∨ ∃ i, value = .int i) :
    (∃ s, canonicalEntity py field value = .str s) ∨ ∃ i,
      canonicalEntity py field value = .int i := by
  unfold canonicalEntity
  split
  · rcases h with ⟨s, rfl⟩ | ⟨i, rfl⟩
    · exact .inl ⟨_, rfl⟩
    · exact .inr ⟨_, rfl⟩
  split
  · rcases h with ⟨s, rfl⟩ | ⟨i, rfl⟩
    · exact .inl ⟨_, rfl⟩
    · exact .inr ⟨_, rfl⟩
  split
  · split
    · exact .inl ⟨_, rfl⟩
    · exact .inl ⟨_, rfl⟩
  · exact h

/-- A field of the payload matches itself, and one that it lacks is not given. -/
theorem validateResolvedField_self (values : ResolvedValues) (field : String) :
    validateResolvedField py values.payload values.payload field = allow := by
  unfold validateResolvedField
  cases hget : values.payload.get? field with
  | none => simp [given, hget]
  | some value =>
    have hcases := values.get?_cases hget
    have hnone : value.isNone = false := by
      rcases hcases with ⟨s, rfl⟩ | ⟨i, rfl⟩ <;> rfl
    have heq := pyEq_self (canonicalEntity_cases py field hcases)
    simp [requireMatchingEntity, given, hget, hnone, heq]

theorem validateResolvedEntities_self (toolName : String) (values : ResolvedValues) :
    validateResolvedEntities py toolName values.payload values.payload = allow := by
  unfold validateResolvedEntities
  generalize py.setOrder ((semanticFieldsByTool.lookup toolName).getD []) = fields
  induction fields with
  | nil => rfl
  | cons field rest ih =>
    rw [List.foldl_cons]
    have hfirst : allow.andThen (fun _ =>
        validateResolvedField py values.payload values.payload field) = allow :=
      validateResolvedField_self values field
    rw [hfirst]
    exact ih

/-- The validator allows the payload of a resolution. -/
theorem validateToolCallSemantics_self {resolution : IntentResolution} {descriptor : ToolDescriptor}
    {values : ResolvedValues} (h : resolveIntent py query = .ok (some resolution))
    (hname : resolution.toolName = some descriptor.name)
    (hvalues : resolution.payload = values.payload) (hread : descriptor.isMutating = false) :
    validateToolCallSemantics py query descriptor resolution.payload = .ok allow := by
  have hentities :
      validateResolution py descriptor resolution.payload (some resolution) = allow := by
    unfold validateResolution
    dsimp only
    rw [hname, hvalues]
    dsimp only
    rw [if_neg (by simp), validateResolvedEntities_self]
  unfold validateToolCallSemantics
  rw [h]
  simp only [bind, Except.bind]
  rw [hentities, hread]
  rfl

end

/-! ## The input models -/

/-- The input model of a tool accepts a payload and keeps its values. -/
def AcceptsUnchanged (model : InputModel) (payload : Payload) : Prop :=
  ∃ dump, validateStrictInput model payload = .ok dump ∧
    ∀ field value, payload.get? field = some value → dump.get? field = some value

section

variable (pydantic : Pydantic)

theorem optionalText_map {trim : String → String} {site : Option String}
    (h : ∀ text, site = some text → trim text = text) :
    optionalText trim (site.map .str) = some site := by
  cases site with
  | none => rfl
  | some text =>
    change some (some (trim text)) = some (some text)
    rw [h text rfl]

theorem optionalStatus_map (status : Option WorkOrderStatus) :
    optionalStatus (status.map (fun status => .str status.value)) = some status := by
  cases status with
  | none => rfl
  | some status =>
    change (WorkOrderStatus.ofValue? status.value).map some = some (some status)
    rw [WorkOrderStatus.ofValue?_value]
    rfl

theorem limitField_map (limit : Option Limit) :
    limitField pydantic (limit.map (fun limit => .int limit.value)) =
      some (limit.getD .default) := by
  cases limit with
  | none => rfl
  | some limit =>
    change (pydantic.laxInt (.int limit.value)).bind Limit.ofInt? = some limit
    rw [pydantic.laxInt_int]
    exact Limit.ofInt?_value limit

variable {values : ResolvedValues}

theorem accepts_of_dump {I : Type} {name : String} {parse : Payload → Except PyError I}
    {dump : I → Payload} {input : I} (hparse : parse values.payload = .ok input)
    (hsite : ∀ site, values.site = some site → (dump input).get? "site_code" = some (.str site))
    (hlimit : ∀ limit, values.limit = some limit →
      (dump input).get? "limit" = some (.int limit.value))
    (hstatus : ∀ status, values.status = some status →
      (dump input).get? "status" = some (.str status.value)) :
    AcceptsUnchanged (inputModel name parse dump) values.payload := by
  refine ⟨dump input, ?_, ?_⟩
  · unfold validateStrictInput inputModel
    dsimp only
    rw [if_pos rfl, hparse]
    rfl
  · intro field value h
    by_cases hfield : field ∈ ["site_code", "limit", "status"]
    · simp only [List.mem_cons, List.not_mem_nil, or_false] at hfield
      rcases hfield with rfl | rfl | rfl
      · rw [ResolvedValues.get?_site] at h
        obtain ⟨site, hsome, rfl⟩ := Option.map_eq_some_iff.mp h
        exact hsite site hsome
      · rw [ResolvedValues.get?_limit] at h
        obtain ⟨limit, hsome, rfl⟩ := Option.map_eq_some_iff.mp h
        exact hlimit limit hsome
      · rw [ResolvedValues.get?_status] at h
        obtain ⟨status, hsome, rfl⟩ := Option.map_eq_some_iff.mp h
        exact hstatus status hsome
    · rw [ResolvedValues.get?_other values hfield] at h
      cases h

theorem workOrders_accepts
    (htrim : ∀ site, values.site = some site → stripWhitespace site = site) :
    AcceptsUnchanged (inputModel "GetWorkOrdersInput" (GetWorkOrdersInput.parse pydantic)
      GetWorkOrdersInput.dump) values.payload := by
  have hfields : onlyFields ["site_code", "status", "limit"] values.payload = true := by
    obtain ⟨site, limit, status⟩ := values
    cases site <;> cases limit <;> cases status <;> rfl
  have hparse : GetWorkOrdersInput.parse pydantic values.payload =
      .ok ⟨values.site, values.status, values.limit.getD .default⟩ := by
    unfold GetWorkOrdersInput.parse
    rw [hfields, values.get?_site, values.get?_status, values.get?_limit, optionalText_map htrim,
      optionalStatus_map, limitField_map]
  apply accepts_of_dump hparse
  · intro site hsite
    simp [GetWorkOrdersInput.dump, Dict.get?_cons, hsite, Value.optionalStr]
  · intro limit hlimit
    simp [GetWorkOrdersInput.dump, Dict.get?_cons, hlimit]
  · intro status hstatus
    simp [GetWorkOrdersInput.dump, Dict.get?_cons, hstatus, Value.optionalStr]

theorem siteLimit_accepts (name : String) (hstatus : values.status = none) :
    AcceptsUnchanged (inputModel name (SiteLimitInput.parse pydantic name) SiteLimitInput.dump)
      values.payload := by
  have hfields : onlyFields ["site_code", "limit"] values.payload = true := by
    obtain ⟨site, limit, status⟩ := values
    cases hstatus
    cases site <;> cases limit <;> rfl
  have hparse : SiteLimitInput.parse pydantic name values.payload =
      .ok ⟨values.site, values.limit.getD .default⟩ := by
    unfold SiteLimitInput.parse
    have hsite : optionalText id (values.site.map .str) = some values.site :=
      optionalText_map (fun _ _ => rfl)
    rw [hfields, values.get?_site, values.get?_limit, hsite, limitField_map]
  apply accepts_of_dump hparse
  · intro site hsite
    simp [SiteLimitInput.dump, Dict.get?_cons, hsite, Value.optionalStr]
  · intro limit hlimit
    simp [SiteLimitInput.dump, Dict.get?_cons, hlimit]
  · intro status hsome
    rw [hstatus] at hsome
    cases hsome

theorem assetStatus_accepts (hlimit : values.limit = none) (hstatus : values.status = none) :
    AcceptsUnchanged (inputModel "GetAssetStatusInput" (GetAssetStatusInput.parse pydantic)
      GetAssetStatusInput.dump) values.payload := by
  have hfields : onlyFields ["site_code"] values.payload = true := by
    obtain ⟨site, limit, status⟩ := values
    cases hlimit
    cases hstatus
    cases site <;> rfl
  have hparse : GetAssetStatusInput.parse pydantic values.payload = .ok ⟨values.site⟩ := by
    unfold GetAssetStatusInput.parse
    have hsite : optionalText id (values.site.map .str) = some values.site :=
      optionalText_map (fun _ _ => rfl)
    rw [hfields, values.get?_site, hsite]
  apply accepts_of_dump hparse
  · intro site hsite
    simp [GetAssetStatusInput.dump, Dict.get?_cons, hsite, Value.optionalStr]
  · intro limit hsome
    rw [hlimit] at hsome
    cases hsome
  · intro status hsome
    rw [hstatus] at hsome
    cases hsome

end

/-! ## The three agree -/

/-- The tool of a resolution accepts its values. -/
theorem readTool_accepts (py : Interpreter) (pydantic : Pydantic) {toolName : String}
    {values : ResolvedValues} (hfits : Fits toolName values)
    (htrim : ∀ site, values.site = some site → stripWhitespace site = site) :
    ∃ tool ∈ readTools py pydantic, tool.definition.name = toolName ∧
      AcceptsUnchanged tool.definition.inputModel values.payload := by
  rcases hfits with rfl | ⟨hname, hstatus⟩ | ⟨rfl, hlimit, hstatus⟩
  · exact ⟨buildGetWorkOrdersTool py pydantic, by simp [readTools], rfl,
      workOrders_accepts pydantic htrim⟩
  · simp only [List.mem_cons, List.not_mem_nil, or_false] at hname
    rcases hname with rfl | rfl | rfl
    · exact ⟨buildGetMaintenanceTicketsTool py pydantic, by simp [readTools], rfl,
        siteLimit_accepts pydantic _ hstatus⟩
    · exact ⟨buildGetSparePartsAvailabilityTool py pydantic, by simp [readTools], rfl,
        siteLimit_accepts pydantic _ hstatus⟩
    · exact ⟨buildGetProductionScheduleTool py pydantic, by simp [readTools], rfl,
        siteLimit_accepts pydantic _ hstatus⟩
  · exact ⟨buildGetAssetStatusTool py pydantic, by simp [readTools], rfl,
      assetStatus_accepts pydantic hlimit hstatus⟩

/-- A resolution that names a tool is allowed by the validator for a reading descriptor of that
name, and a read tool of that name accepts its payload unchanged. -/
theorem resolvedAccepted {py : Interpreter} (hcase : py.LetterCase) (pydantic : Pydantic)
    {query : String} {resolution : IntentResolution} (descriptor : ToolDescriptor)
    (h : resolveIntent py query = .ok (some resolution))
    (hname : resolution.toolName = some descriptor.name) (hread : descriptor.isMutating = false) :
    validateToolCallSemantics py query descriptor resolution.payload = .ok allow ∧
      (∃ values : ResolvedValues, resolution.payload = values.payload ∧
        Fits descriptor.name values) ∧
      ∃ tool ∈ readTools py pydantic, tool.definition.name = descriptor.name ∧
        AcceptsUnchanged tool.definition.inputModel resolution.payload := by
  obtain ⟨values, hvalues, hsite, hfits⟩ := resolveIntent_values h hname
  have htrim : ∀ site, values.site = some site → stripWhitespace site = site := by
    intro site hsome
    rw [hsite] at hsome
    obtain ⟨code, hcode, rfl⟩ := extractSiteCode_code hsome
    exact stripWhiteSpace_code (isCode_upper hcode hcase)
  refine ⟨validateToolCallSemantics_self h hname hvalues hread, ⟨values, hvalues, hfits⟩, ?_⟩
  rw [hvalues]
  exact readTool_accepts py pydantic hfits htrim

/-- A library that reads integers as they are. -/
def integerPydantic : Pydantic where
  laxInt := Value.int?
  laxInt_int := Value.int?_int
  errorText model _ := "1 validation error for " ++ model

theorem resolvedAccepted_openWorkOrders :
    ∃ resolution, resolveIntent .letters "Show me five open work orders at PLANT-HCM" =
        .ok (some resolution) ∧
      validateToolCallSemantics .letters "Show me five open work orders at PLANT-HCM"
        { name := "get_work_orders" } resolution.payload = .ok allow := by
  have hresolves : (resolveIntent .letters
      "Show me five open work orders at PLANT-HCM").toOption.join.any
        (fun resolution => decide (resolution.toolName = some "get_work_orders")) = true := by
    decide
  obtain ⟨resolution, h, htool⟩ := resolution_of_any hresolves
  exact ⟨resolution, h, (resolvedAccepted UnicodeData.letters_letterCase integerPydantic
    { name := "get_work_orders" } h (of_decide_eq_true htool) rfl).1⟩

end HotAirBalloon.Operations
