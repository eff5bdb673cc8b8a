import HotAirBalloon.Gateway.Worlds
import HotAirBalloon.Operations.SiteQueries

/-!
# Site isolation of the read tools

For an actor without global scope the gateway makes sure that a validated payload names one of
the actor's sites: `siteScope` leaves no payload without a site, the input models keep the
site but for its surrounding blanks, and the permission check is made on what they keep. The
queries do the rest (`SiteQuery`).
-/

namespace HotAirBalloon.Operations

open Python Gateway User

/-! ## Input models -/

/-- What an input model does with a site. -/
structure SiteInput {I : Type} (parse : Payload → Except PyError I) (dump : I → Payload)
    (siteCode : I → Option String) : Prop where
  parse_dump : ∀ payload input, parse payload = .ok input → parse (dump input) = .ok input
  dump_siteCode : ∀ input, (dump input).get? "site_code" = some (Value.optionalStr (siteCode input))
  siteCode_of_some : ∀ payload input value, parse payload = .ok input →
    payload.get? "site_code" = some value → value.isNone = false →
    ∃ code, siteCode input = some code

/-- A field with a value keeps one. -/
theorem optionalText_of_some {trim : String → String} {value : Value} {text : Option String}
    (h : optionalText trim (some value) = some text) (hvalue : value.isNone = false) :
    ∃ code, text = some code := by
  cases value with
  | none => cases hvalue
  | str s =>
    cases h
    exact ⟨trim s, rfl⟩
  | bool b => cases h
  | int i => cases h
  | float x => cases h
  | list items => cases h
  | dict items => cases h

/-- The dump of a field is read back, when trimming twice is trimming once. -/
theorem optionalText_optionalStr {trim : String → String} (hidem : ∀ s, trim (trim s) = trim s)
    {field : Option Value} {text : Option String} (h : optionalText trim field = some text) :
    optionalText trim (some (Value.optionalStr text)) = some text := by
  unfold optionalText at h
  split at h
  · cases h
    rfl
  · cases h
    rfl
  · cases h
    simp only [Value.optionalStr, optionalText, hidem]
  · cases h

theorem optionalStatus_optionalStr (status : Option WorkOrderStatus) :
    optionalStatus (some (Value.optionalStr (status.map (·.value)))) = some status := by
  cases status with
  | none => rfl
  | some status => simp [optionalStatus, Value.optionalStr, WorkOrderStatus.ofValue?_value]

theorem limitField_int (pydantic : Pydantic) (limit : Limit) :
    limitField pydantic (some (.int limit.value)) = some limit := by
  simp [limitField, pydantic.laxInt_int, Limit.ofInt?_value]

theorem GetWorkOrdersInput.siteInput (pydantic : Pydantic) :
    SiteInput (GetWorkOrdersInput.parse pydantic) GetWorkOrdersInput.dump
      GetWorkOrdersInput.siteCode where
  parse_dump payload input h := by
    unfold GetWorkOrdersInput.parse at h
    split at h
    · rename_i siteCode status limit _ hsite _ _
      cases h
      have hsite' := optionalText_optionalStr (stripBy_idem isWhiteSpace) hsite
      simp [GetWorkOrdersInput.parse, GetWorkOrdersInput.dump, onlyFields, Dict.get?_cons,
        stripWhitespace, hsite', optionalStatus_optionalStr, limitField_int]
    · cases h
  dump_siteCode input := rfl
  siteCode_of_some payload input value h hvalue hnone := by
    unfold GetWorkOrdersInput.parse at h
    split at h
    · rename_i siteCode status limit _ hsite _ _
      cases h
      rw [hvalue] at hsite
      exact optionalText_of_some hsite hnone
    · cases h

theorem GetAssetStatusInput.siteInput (pydantic : Pydantic) :
    SiteInput (GetAssetStatusInput.parse pydantic) GetAssetStatusInput.dump
      GetAssetStatusInput.siteCode where
  parse_dump payload input h := by
    unfold GetAssetStatusInput.parse at h
    split at h
    · rename_i siteCode _ hsite
      cases h
      have hsite' : optionalText id (some (Value.optionalStr siteCode)) = some siteCode :=
        optionalText_optionalStr (fun _ => rfl) hsite
      simp [GetAssetStatusInput.parse, GetAssetStatusInput.dump, onlyFields, Dict.get?_cons, hsite']
    · cases h
  dump_siteCode input := rfl
  siteCode_of_some payload input value h hvalue hnone := by
    unfold GetAssetStatusInput.parse at h
    split at h
    · rename_i siteCode _ hsite
      cases h
      rw [hvalue] at hsite
      exact optionalText_of_some hsite hnone
    · cases h

theorem SiteLimitInput.siteInput (pydantic : Pydantic) (model : String) :
    SiteInput (SiteLimitInput.parse pydantic model)
      SiteLimitInput.dump SiteLimitInput.siteCode where
  parse_dump payload input h := by
    unfold SiteLimitInput.parse at h
    split at h
    · rename_i siteCode limit _ hsite _
      cases h
      have hsite' : optionalText id (some (Value.optionalStr siteCode)) = some siteCode :=
        optionalText_optionalStr (fun _ => rfl) hsite
      simp [SiteLimitInput.parse, SiteLimitInput.dump, onlyFields, Dict.get?_cons, hsite',
        limitField_int]
    · cases h
  dump_siteCode input := rfl
  siteCode_of_some payload input value h hvalue hnone := by
    unfold SiteLimitInput.parse at h
    split at h
    · rename_i siteCode limit _ hsite _
      cases h
      rw [hvalue] at hsite
      exact optionalText_of_some hsite hnone
    · cases h

/-! ## The handlers -/

theorem mapM_of_self {α : Type} {f : α → Except PyError α} {rows : List α}
    (h : ∀ row ∈ rows, f row = .ok row) : rows.mapM f = .ok rows := by
  induction rows with
  | nil => rfl
  | cons row rest ih =>
    rw [List.mapM_cons, h row List.mem_cons_self,
      ih (fun row' hrow' => h row' (List.mem_cons_of_mem row hrow'))]
    rfl

/-- Rows of the site with the given code. -/
def RowsOfSite (db : OperationsDb) (code : String) (rows : List (Dict Value)) : Prop :=
  ∀ row ∈ rows, ∃ site ∈ db.sites, site.code = code ∧ RowOf db site row

/-- What a handler does with a validated payload for a site: it reads the database only, its
rows are of the site, and agreeing databases give the same answer. -/
structure HandlesSite (output : OutputModel) (tool : ToolDefinition OperationsDb)
    (validated : Payload) (code : String) : Prop where
  reads : ∀ db, (tool.handler validated db).1 = db
  rows : ∀ db, ∃ rows, (tool.handler validated db).2 = .ok (output.dump rows) ∧
    RowsOfSite db code rows
  congr : ∀ codes db db', code ∈ codes → Agree codes db db' →
    (tool.handler validated db).2 = (tool.handler validated db').2

/-- A tool whose payloads, once validated, keep their site and are handled for it. -/
structure SiteScoped (output : OutputModel) (tool : ToolDefinition OperationsDb) : Prop where
  name : tool.name = output.toolName
  siteCodeField : tool.siteCodeField = some "site_code"
  maxRetries : tool.maxRetries = 0
  handles : ∀ payload validated value,
    validateStrictInput tool.inputModel payload = .ok validated →
    payload.get? "site_code" = some value → value.isNone = false →
    ∃ code, validated.get? "site_code" = some (.str code) ∧ HandlesSite output tool validated code

theorem readTool_siteScoped {I : Type} {pydantic : Pydantic} {parse : Payload → Except PyError I}
    {dump : I → Payload} {siteCode : I → Option String}
    {query : OperationsDb → I → List (Dict Value)} {output : OutputModel}
    (hinput : SiteInput parse dump siteCode)
    (hquery : SiteQuery pydantic query siteCode output.item) (py : Interpreter)
    (inputName description : String) (permission : Permission)
    (adapter : CollectionResultAdapter) :
    SiteScoped output (readTool py pydantic inputName description parse dump query output permission
      adapter).definition where
  name := rfl
  siteCodeField := rfl
  maxRetries := rfl
  handles payload validated value hvalid hvalue hnone := by
    have hdump : (parse payload).map dump = .ok validated := hvalid
    cases hparse : parse payload with
    | error e =>
      rw [hparse] at hdump
      cases hdump
    | ok input =>
    rw [hparse] at hdump
    cases hdump
    obtain ⟨code, hcode⟩ := hinput.siteCode_of_some payload input value hparse hvalue hnone
    have hhandler : ∀ db, (parse (dump input)).bind
        (fun data => output.ofRows pydantic (query db data)) =
            .ok (output.dump (query db input)) := by
      intro db
      rw [hinput.parse_dump payload input hparse]
      have hrows := mapM_of_self (hquery.valid db input code hcode)
      simp only [Except.bind, OutputModel.ofRows, hrows]
      rfl
    refine ⟨code, ?_, ⟨fun _ => rfl, ?_, ?_⟩⟩
    · rw [hinput.dump_siteCode, hcode]
      rfl
    · intro db
      exact ⟨query db input, hhandler db, hquery.rowOf db input code hcode⟩
    · intro codes db db' hcodes hagree
      have hcongr := hquery.congr db db' codes input code hcode hcodes hagree
      calc (parse (dump input)).bind (fun data => output.ofRows pydantic (query db data))
          = .ok (output.dump (query db input)) := hhandler db
        _ = .ok (output.dump (query db' input)) := by rw [hcongr]
        _ = (parse (dump input)).bind (fun data => output.ofRows pydantic (query db' data)) :=
          (hhandler db').symm

/-- Each of the five read tools is site scoped. -/
theorem readTools_siteScoped {py : Interpreter} {pydantic : Pydantic}
    {registration : AssistantToolRegistration OperationsDb}
    (h : registration ∈ readTools py pydantic) :
    ∃ output, SiteScoped output registration.definition := by
  simp only [readTools, List.mem_cons, List.not_mem_nil, or_false] at h
  rcases h with rfl | rfl | rfl | rfl | rfl
  · exact ⟨_, readTool_siteScoped (GetWorkOrdersInput.siteInput pydantic)
      (siteQuery_workOrders pydantic) py _ _ _ _⟩
  · exact ⟨_, readTool_siteScoped (GetAssetStatusInput.siteInput pydantic)
      (siteQuery_assets pydantic) py _ _ _ _⟩
  · exact ⟨_, readTool_siteScoped (SiteLimitInput.siteInput pydantic _)
      (siteQuery_maintenanceTickets pydantic) py _ _ _ _⟩
  · exact ⟨_, readTool_siteScoped (SiteLimitInput.siteInput pydantic _)
      (siteQuery_spareParts pydantic) py _ _ _ _⟩
  · exact ⟨_, readTool_siteScoped (SiteLimitInput.siteInput pydantic _)
      (siteQuery_productionSchedule pydantic) py _ _ _ _⟩

/-! ## Invocations -/

/-- Behind the site scope a payload names a site, unless the actor has global scope. -/
theorem siteScope_some {W : Type} {tool : ToolDefinition W} {ctx : AuthorizationContext}
    {payload scopedPayload : Payload} {field : String} (hfield : tool.siteCodeField = some field)
    (hglobal : ctx.globalScope = false) (h : siteScope tool ctx payload = .ok scopedPayload) :
    ∃ value, scopedPayload.get? field = some value ∧ value.isNone = false := by
  have hfill : ∀ {p}, siteScope.fillIn ctx payload field = .ok p →
      ∃ value, p.get? field = some value ∧ value.isNone = false := by
    intro p hp
    unfold siteScope.fillIn at hp
    split at hp
    · rename_i site _
      cases hp
      exact ⟨.str site, Dict.get?_set_self _ _ _, rfl⟩
    · cases hp
    · cases hp
  unfold siteScope at h
  simp only [hfield, hglobal, Bool.false_eq_true, if_false] at h
  split at h
  · rename_i requested hrequested
    cases hnone : requested.isNone with
    | true =>
      rw [hnone, if_pos rfl] at h
      exact hfill h
    | false =>
      rw [hnone, if_neg Bool.false_ne_true] at h
      cases h
      exact ⟨requested, hrequested, hnone⟩
  · exact hfill h

/-- A call that passes the gates is for one of the actor's sites. -/
theorem SiteScoped.handlesSite {output : OutputModel} {tool : ToolDefinition OperationsDb}
    (h : SiteScoped output tool) {ctx : AuthorizationContext}
    (hglobal : ctx.globalScope = false) {payload scopedPayload validated : Payload}
    {siteCode : Option String} (hscope : siteScope tool ctx payload = .ok scopedPayload)
    (hvalid : validateStrictInput tool.inputModel scopedPayload = .ok validated)
    (hsite : siteCodeOf tool validated = .ok siteCode)
    (hperm : defaultPermissionChecker ctx tool.requiredPermission siteCode = true) :
    ∃ code ∈ ctx.siteCodes, HandlesSite output tool validated code := by
  obtain ⟨value, hvalue, hnone⟩ := siteScope_some h.siteCodeField hglobal hscope
  obtain ⟨code, hcode, hhandles⟩ := h.handles scopedPayload validated value hvalid hvalue hnone
  refine ⟨code, ?_, hhandles⟩
  unfold siteCodeOf at hsite
  simp only [h.siteCodeField, hcode] at hsite
  cases hsite
  exact AuthorizationContext.mem_siteCodes_of_can hglobal hperm

/-- What an actor may get from a handler: an output of the tool whose rows are all rows of the
actor's sites, and show their codes. -/
def OwnRows (toolName : String) (ctx : AuthorizationContext) (db : OperationsDb)
    (outcome : Except PyError Payload) : Prop :=
  ∃ (output : OutputModel) (rows : List (Dict Value)), output.toolName = toolName ∧
    outcome = .ok (output.dump rows) ∧
    ∀ row ∈ rows, ∃ site ∈ db.sites, site.code ∈ ctx.siteCodes ∧ RowOf db site row ∧
      row.get? "site_code" = some (.str site.code)

/-- Calls of the handler, in an execution of a tool without retries. -/
theorem Executed.outcome_eq {W : Type} {registration : AssistantToolRegistration W} {actor : String}
    {conversationId : Option Uuid} {validated : Payload} {world : W}
    {outcomes : List (Except PyError Payload)} {events : List GatewayEvent}
    (h : Executed registration actor conversationId validated world outcomes events)
    (hretries : registration.definition.maxRetries = 0) {payload : Payload}
    {outcome : Except PyError Payload}
    (hmem : GatewayEvent.handlerCalled payload outcome ∈ events) :
    outcome = (registration.definition.handler validated world).2 := by
  rw [h.events_eq, List.mem_cons, List.mem_append] at hmem
  rcases hmem with hmem | hmem | hmem
  · cases hmem
  · obtain ⟨o, ho, heq⟩ := List.mem_map.mp hmem
    cases heq
    -- one attempt at most, and the first is in the given world
    have hlength := h.attempts.length_le
    rw [hretries] at hlength
    have hfirst := h.first_eq
    cases outcomes with
    | nil => cases ho
    | cons first rest =>
      obtain rfl : rest = [] := by simpa using hlength
      cases hfirst
      exact List.mem_singleton.mp ho
  · obtain ⟨e, he⟩ := closingEvents_trace _ _ _ _ _ _ hmem
    cases he

variable {L : Type} {py : Interpreter} {pydantic : Pydantic} {gateway : ToolGateway OperationsDb L}
  {toolName : String} {registration : AssistantToolRegistration OperationsDb}
  {ctx : AuthorizationContext}

theorem invoke_ownRows (hchecker : gateway.permissionChecker = defaultPermissionChecker)
    (hreg : gateway.registry.get toolName = some registration) {output : OutputModel}
    (hscoped : SiteScoped output registration.definition) (hglobal : ctx.globalScope = false)
    (payload : Payload) (conversationId : Option Uuid) (s : GatewayState OperationsDb L) :
    ∃ events,
      (exec (gateway.invoke toolName payload ctx conversationId) s).2.log = s.log ++ events ∧
      ∀ p outcome, GatewayEvent.handlerCalled p outcome ∈ events →
        OwnRows toolName ctx s.world outcome := by
  obtain ⟨events, hlog, hcalled⟩ := invoke_run gateway toolName payload ctx conversationId s
  refine ⟨events, hlog, ?_⟩
  intro p outcome hmem
  have hcalls : handlerPayloads events ≠ [] := by
    have hp : p ∈ handlerPayloads events := List.mem_filterMap.mpr ⟨_, hmem, rfl⟩
    exact List.ne_nil_of_mem hp
  obtain ⟨registration', scopedPayload, validated, siteCode, outcomes, hgates, hexecuted⟩ :=
    hcalled hcalls
  obtain rfl : registration = registration' := by
    have h := hgates.registered
    rw [hreg] at h
    exact Option.some.inj h
  have hperm := hgates.permitted
  rw [hchecker] at hperm
  obtain ⟨code, hcode, hhandles⟩ := hscoped.handlesSite hglobal hgates.siteScoped hgates.accepted
    hgates.siteCode_eq hperm
  obtain ⟨rows, houtcome, hrows⟩ := hhandles.rows s.world
  refine ⟨output, rows, ?_, ?_, ?_⟩
  · rw [← hscoped.name]
    exact ToolRegistry.name_of_get hreg
  · rw [Executed.outcome_eq hexecuted hscoped.maxRetries hmem, houtcome]
  · intro row hrow
    obtain ⟨site, hsite, rfl, hrowOf⟩ := hrows row hrow
    exact ⟨site, hsite, hcode, hrowOf, hrowOf.siteCode hsite⟩

theorem invoke_indistinct (hchecker : gateway.permissionChecker = defaultPermissionChecker)
    (hreg : gateway.registry.get toolName = some registration) {output : OutputModel}
    (hscoped : SiteScoped output registration.definition) (hglobal : ctx.globalScope = false)
    (payload : Payload) (conversationId : Option Uuid) :
    Blind (Agree ctx.siteCodes) (gateway.invoke toolName payload ctx conversationId) := by
  apply blind_invoke
  intro registration' scopedPayload validated siteCode hreg' hscope hvalid hsite hperm
  obtain rfl : registration = registration' := by
    rw [hreg] at hreg'
    exact Option.some.inj hreg'
  rw [hchecker] at hperm
  obtain ⟨code, hcode, hhandles⟩ := hscoped.handlesSite hglobal hscope hvalid hsite hperm
  intro db db' hagree
  refine ⟨hhandles.congr ctx.siteCodes db db' hcode hagree, ?_⟩
  rwa [hhandles.reads, hhandles.reads]

/-- Whatever an actor without global scope sends to a read tool, every row that the handler hands
back is of one of the actor's sites, and databases that agree on those sites, and on the codes of
the assets that their work orders name, give the same outcome. -/
theorem invoke_siteIsolated (hchecker : gateway.permissionChecker = defaultPermissionChecker)
    (hreg : gateway.registry.get toolName = some registration)
    (htool : registration ∈ readTools py pydantic) (hglobal : ctx.globalScope = false)
    (payload : Payload) (conversationId : Option Uuid) (s : GatewayState OperationsDb L) :
    (∃ events,
      (exec (gateway.invoke toolName payload ctx conversationId) s).2.log = s.log ++ events ∧
      ∀ p outcome, GatewayEvent.handlerCalled p outcome ∈ events →
        OwnRows toolName ctx s.world outcome) ∧
    ∀ db, Agree ctx.siteCodes s.world db →
      (exec (gateway.invoke toolName payload ctx conversationId) s).1 =
        (exec (gateway.invoke toolName payload ctx conversationId) { s with world := db }).1 ∧
      (exec (gateway.invoke toolName payload ctx conversationId) s).2.log =
        (exec (gateway.invoke toolName payload ctx conversationId)
          { s with world := db }).2.log := by
  obtain ⟨output, hscoped⟩ := readTools_siteScoped htool
  refine ⟨invoke_ownRows hchecker hreg hscoped hglobal payload conversationId s, ?_⟩
  intro db hagree
  obtain ⟨hresult, hstate⟩ := invoke_indistinct hchecker hreg hscoped hglobal payload conversationId
    s { s with world := db } ⟨hagree, rfl, rfl⟩
  exact ⟨hresult, hstate.log⟩

/-! ## An asset of another site -/

def plant1 : SiteRecord := ⟨Uuid.ofNat 1, "PLANT-1"⟩

def plant2 : SiteRecord := ⟨Uuid.ofNat 2, "PLANT-2"⟩

/-- An open work order of the first plant that names an asset of the second. -/
def crossSiteOrder : WorkOrderRecord where
  id := Uuid.ofNat 10
  siteId := plant1.id
  assetId := Uuid.ofNat 20
  code := "WO-1"
  title := "Inspect pump"
  description := ""
  priority := "high"
  status := "open"
  workType := "inspection"
  dueAt := none
  createdAt := 0
  updatedAt := 0

/-- A database with that work order, where the asset of the second plant has the given code. -/
def crossSiteDb (assetCode : String) : OperationsDb where
  sites := [plant1, plant2]
  assets := [⟨Uuid.ofNat 20, plant2.id, assetCode, "Pump", "pump", "high", "running"⟩]
  workOrders := [crossSiteOrder]
  spareParts := []
  collation := fun a b => decide (a ≤ b)
  siteIds_nodup := by decide
  assetIds_nodup := by simp
  assetSites := by simp
  workOrderSites := by simp [crossSiteOrder]
  workOrderAssets := by simp [crossSiteOrder]
  sparePartSites := by simp

def strictPydantic : Pydantic where
  laxInt := Value.int?
  laxInt_int := Value.int?_int
  errorText model _ := "validation error for " ++ model

def ticketsGateway : ToolGateway OperationsDb Unit where
  registry :=
    ⟨[("get_maintenance_tickets", buildGetMaintenanceTicketsTool .ascii strictPydantic)],
      by simp [buildGetMaintenanceTicketsTool, readTool, getMaintenanceTicketsOutput]⟩
  permissionChecker := defaultPermissionChecker
  approvalService := none

def plant1Analyst : AuthorizationContext where
  userId := Uuid.ofNat 1
  roles := [.readOnlyAnalyst]
  siteCodes := ["PLANT-1"]
  siteCodes_nodup := List.nodup_singleton _

/-- The asset code of the first ticket in an outcome. -/
def firstAssetCode (outcome : Except PyError ToolCallRecord) : Option String :=
  match outcome with
  | .error _ => none
  | .ok record =>
    match record.result.get? "result" with
    | some (.dict result) =>
      match Dict.get? result "tickets" with
      | some (.list (.dict ticket :: _)) => (Dict.get? ticket "asset_code").bind Value.str?
      | _ => none
    | _ => none

/-- The same database with a spare part of the second plant. -/
def stockedDb : OperationsDb :=
  { crossSiteDb "PUMP-1" with
    spareParts := [⟨Uuid.ofNat 30, plant2.id, "SEAL-1", "Seal", "pc", 4, 2, true⟩]
    sparePartSites := by simp [crossSiteDb] }

/-- One call of the handler, whose row is of the actor's plant; a spare part of the other plant
changes nothing. -/
theorem invoke_siteIsolated_tickets :
    ∃ events,
      (exec (ticketsGateway.invoke "get_maintenance_tickets" [] plant1Analyst none)
        ⟨crossSiteDb "PUMP-1", (), []⟩).2.log = events ∧
      (handlerPayloads events).length = 1 ∧
      (∀ p outcome, GatewayEvent.handlerCalled p outcome ∈ events →
        OwnRows "get_maintenance_tickets" plant1Analyst (crossSiteDb "PUMP-1") outcome) ∧
      (exec (ticketsGateway.invoke "get_maintenance_tickets" [] plant1Analyst none)
        ⟨crossSiteDb "PUMP-1", (), []⟩).1 =
      (exec (ticketsGateway.invoke "get_maintenance_tickets" [] plant1Analyst none)
        ⟨stockedDb, (), []⟩).1 := by
  obtain ⟨⟨events, hlog, hrows⟩, hagree⟩ := @invoke_siteIsolated Unit .ascii strictPydantic
    ticketsGateway "get_maintenance_tickets" _ plant1Analyst rfl rfl
      (by simp [readTools]) rfl [] none
    ⟨crossSiteDb "PUMP-1", (), []⟩
  refine ⟨events, hlog, ?_, hrows, (hagree stockedDb ⟨⟨rfl, rfl, rfl, rfl, rfl⟩, ?_⟩).1⟩
  · rw [List.nil_append] at hlog
    rw [← hlog]
    decide +kernel
  · exact fun _ _ => rfl

/-- The two databases agree on the sites, work orders, assets and spare parts of the actor's
sites, but the tickets show the code of the other plant's asset. -/
theorem invoke_shows_other_asset :
    AgreeOnSites plant1Analyst.siteCodes (crossSiteDb "PUMP-1") (crossSiteDb "PUMP-2") ∧
    firstAssetCode (exec (ticketsGateway.invoke "get_maintenance_tickets" [] plant1Analyst none)
      ⟨crossSiteDb "PUMP-1", (), []⟩).1 = some "PUMP-1" ∧
    (exec (ticketsGateway.invoke "get_maintenance_tickets" [] plant1Analyst none)
      ⟨crossSiteDb "PUMP-1", (), []⟩).1 ≠
    (exec (ticketsGateway.invoke "get_maintenance_tickets" [] plant1Analyst none)
      ⟨crossSiteDb "PUMP-2", (), []⟩).1 := by
  have hfirst : firstAssetCode (exec (ticketsGateway.invoke "get_maintenance_tickets" []
      plant1Analyst none) ⟨crossSiteDb "PUMP-1", (), []⟩).1 = some "PUMP-1" := by decide +kernel
  have hsecond : firstAssetCode (exec (ticketsGateway.invoke "get_maintenance_tickets" []
      plant1Analyst none) ⟨crossSiteDb "PUMP-2", (), []⟩).1 = some "PUMP-2" := by decide +kernel
  refine ⟨⟨rfl, rfl, rfl, rfl, rfl⟩, hfirst, ?_⟩
  intro h
  rw [h, hsecond] at hfirst
  simp at hfirst

end HotAirBalloon.Operations
