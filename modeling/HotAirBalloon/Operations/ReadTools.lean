import HotAirBalloon.Operations.Repository
import HotAirBalloon.Operations.ResultAdapters
import HotAirBalloon.Operations.WorkOrderStatus

/-!
# The five read tools

`tools/tool_builder.py`: input models, output models and handlers. An input model is a
structure whose limit carries its bounds; a handler validates its payload again, queries the
repository and validates the rows against the item model.

`Pydantic` stands for the validation library: which values its lax mode reads as an integer,
and the text of a `ValidationError`. The output models only ever see rows of exact types, so
the lax conversions of their fields are left out.
-/

namespace HotAirBalloon.Operations

open Python Gateway User

/-- What the models rely on of the validation library. -/
structure Pydantic where
  /-- The integer that a value is read as in lax mode. -/
  laxInt : Value → Option Int
  laxInt_int : ∀ i, laxInt (.int i) = some i
  errorText : String → Payload → String

/-- A `ValidationError` is a `ValueError`. -/
def Pydantic.validationError (pydantic : Pydantic) (model : String) (payload : Payload) : PyError :=
  ⟨"ValidationError", pydantic.errorText model payload, true⟩

/-! ## Input models -/

/-- `limit: int = Field(default=10, ge=1, le=100)`. -/
structure Limit where
  value : Nat
  one_le : 1 ≤ value
  le_hundred : value ≤ 100

def Limit.default : Limit := ⟨10, by decide, by decide⟩

def Limit.ofInt? (i : Int) : Option Limit :=
  if h : 1 ≤ i ∧ i ≤ 100 then some ⟨i.toNat, by omega, by omega⟩ else none

theorem Limit.ofInt?_value (limit : Limit) : Limit.ofInt? limit.value = some limit := by
  obtain ⟨value, hlow, hhigh⟩ := limit
  unfold Limit.ofInt?
  rw [dif_pos (by dsimp only; omega)]
  simp

/-- A field `str | None` with default `None`; `trim` is the identity or `str_strip_whitespace`. -/
def optionalText (trim : String → String) : Option Value → Option (Option String)
  | none | some .none => some none
  | some (.str s) => some (some (trim s))
  | some _ => none

/-- A field `WorkOrderStatus | None` with default `None`. -/
def optionalStatus : Option Value → Option (Option WorkOrderStatus)
  | none | some .none => some none
  | some (.str s) => (WorkOrderStatus.ofValue? s).map some
  | some _ => none

def limitField (pydantic : Pydantic) : Option Value → Option Limit
  | none => some .default
  | some value => (pydantic.laxInt value).bind Limit.ofInt?

/-- `extra="forbid"`: every key is a field. -/
def onlyFields (fields : List String) (payload : Payload) : Bool :=
  payload.all (fun item => item.1 ∈ fields)

structure GetWorkOrdersInput where
  siteCode : Option String
  status : Option WorkOrderStatus
  limit : Limit

structure GetAssetStatusInput where
  siteCode : Option String

/-- `GetMaintenanceTicketsInput`, `GetSparePartsAvailabilityInput` and
`GetProductionScheduleInput`. -/
structure SiteLimitInput where
  siteCode : Option String
  limit : Limit

/-- `str_strip_whitespace=True`. -/
def stripWhitespace : String → String := stripBy isWhiteSpace

namespace GetWorkOrdersInput

def parse (pydantic : Pydantic) (payload : Payload) : Except PyError GetWorkOrdersInput :=
  match onlyFields ["site_code", "status", "limit"] payload,
    optionalText stripWhitespace (payload.get? "site_code"), optionalStatus (payload.get? "status"),
    limitField pydantic (payload.get? "limit") with
  | true, some siteCode, some status, some limit => .ok ⟨siteCode, status, limit⟩
  | _, _, _, _ => .error (pydantic.validationError "GetWorkOrdersInput" payload)

def dump (input : GetWorkOrdersInput) : Payload :=
  [("site_code", Value.optionalStr input.siteCode),
    ("status", Value.optionalStr (input.status.map (·.value))), ("limit", .int input.limit.value)]

end GetWorkOrdersInput

namespace GetAssetStatusInput

def parse (pydantic : Pydantic) (payload : Payload) : Except PyError GetAssetStatusInput :=
  match onlyFields ["site_code"] payload, optionalText id (payload.get? "site_code") with
  | true, some siteCode => .ok ⟨siteCode⟩
  | _, _ => .error (pydantic.validationError "GetAssetStatusInput" payload)

def dump (input : GetAssetStatusInput) : Payload :=
  [("site_code", Value.optionalStr input.siteCode)]

end GetAssetStatusInput

namespace SiteLimitInput

def parse (pydantic : Pydantic) (model : String) (payload : Payload) :
    Except PyError SiteLimitInput :=
  match onlyFields ["site_code", "limit"] payload, optionalText id (payload.get? "site_code"),
    limitField pydantic (payload.get? "limit") with
  | true, some siteCode, some limit => .ok ⟨siteCode, limit⟩
  | _, _, _ => .error (pydantic.validationError model payload)

def dump (input : SiteLimitInput) : Payload :=
  [("site_code", Value.optionalStr input.siteCode), ("limit", .int input.limit.value)]

end SiteLimitInput

/-- An input model from its parser and its dump. -/
def inputModel {I : Type} (name : String) (parse : Payload → Except PyError I)
    (dump : I → Payload) : InputModel where
  name := name
  extra := some "forbid"
  modelValidate payload := (parse payload).map dump

/-! ## Output models -/

inductive FieldType where
  | str
  | optionalStr
  | int
  | bool

def FieldType.accepts : FieldType → Value → Bool
  | str, .str _ => true
  | optionalStr, .none => true
  | optionalStr, .str _ => true
  | int, .int _ => true
  | bool, .bool _ => true
  | _, _ => false

structure ItemModel where
  name : String
  fields : List (String × FieldType)

/-- `Item.model_validate(row)`, up to the dump: the fields in their declared order. -/
def ItemModel.modelValidate (pydantic : Pydantic) (model : ItemModel) (row : Dict Value) :
    Except PyError (Dict Value) :=
  if onlyFields (model.fields.map (·.1)) row ∧
      model.fields.all (fun field => (row.get? field.1).any field.2.accepts) then
    .ok (model.fields.map (fun field => (field.1, (row.get? field.1).getD .none)))
  else .error (pydantic.validationError model.name row)

structure OutputModel where
  name : String
  toolName : String
  collectionField : String
  item : ItemModel

namespace OutputModel

variable (pydantic : Pydantic) (model : OutputModel)

/-- The dump of an output with given items. -/
def dump (items : List (Dict Value)) : Payload :=
  [("tool_name", .str model.toolName), (model.collectionField, .list (items.map .dict))]

/-- The items of a raw collection. -/
def validateItem : Value → Except PyError (Dict Value)
  | .dict row => model.item.modelValidate pydantic row
  | _ => .error (pydantic.validationError model.item.name [])

/-- `Output.model_validate(raw)`, up to the dump. -/
def modelValidate (raw : Payload) : Except PyError Payload :=
  match onlyFields ["tool_name", model.collectionField] raw, raw.get? "tool_name",
    raw.get? model.collectionField with
  | true, some (.str toolName), some (.list items) => do
    let items ← items.mapM (validateItem pydantic model)
    return [("tool_name", .str toolName), (model.collectionField, .list (items.map .dict))]
  | _, _, _ => .error (pydantic.validationError model.name raw)

/-- `Output(collection=[Item.model_validate(row) for row in rows]).model_dump(mode="json")`. -/
def ofRows (rows : List (Dict Value)) : Except PyError Payload := do
  return model.dump (← rows.mapM (model.item.modelValidate pydantic))

end OutputModel

def workOrderItem : ItemModel where
  name := "WorkOrderItem"
  fields := [("id", .str), ("site_id", .str), ("site_code", .str), ("asset_id", .str),
    ("code", .str), ("title", .str), ("description", .str), ("priority", .str), ("status", .str),
    ("work_type", .str), ("due_at", .optionalStr), ("created_at", .str), ("updated_at", .str)]

def assetStatusItem : ItemModel where
  name := "AssetStatusItem"
  fields := [("id", .str), ("code", .str), ("name", .str), ("category", .str),
    ("criticality", .str), ("status", .str), ("site_code", .optionalStr)]

def maintenanceTicketItem : ItemModel where
  name := "MaintenanceTicketItem"
  fields := [("ticket_id", .str), ("site_code", .str), ("code", .str), ("title", .str),
    ("asset_code", .optionalStr), ("priority", .str), ("status", .str), ("due_at", .optionalStr),
    ("work_type", .str)]

def sparePartItem : ItemModel where
  name := "SparePartItem"
  fields := [("part_id", .str), ("site_code", .str), ("code", .str), ("name", .str), ("uom", .str),
    ("on_hand_qty", .int), ("reorder_point", .int), ("critical", .bool), ("below_reorder", .bool)]

def productionScheduleItem : ItemModel where
  name := "ProductionScheduleItem"
  fields := [("id", .str), ("site_code", .str), ("code", .str), ("title", .str),
    ("asset_code", .optionalStr), ("work_type", .str), ("status", .str), ("due_at", .optionalStr),
    ("priority", .str)]

def getWorkOrdersOutput : OutputModel :=
  ⟨"GetWorkOrdersOutput", "get_work_orders", "work_orders", workOrderItem⟩

def getAssetStatusOutput : OutputModel :=
  ⟨"GetAssetStatusOutput", "get_asset_status", "assets", assetStatusItem⟩

def getMaintenanceTicketsOutput : OutputModel :=
  ⟨"GetMaintenanceTicketsOutput", "get_maintenance_tickets", "tickets", maintenanceTicketItem⟩

def getSparePartsAvailabilityOutput : OutputModel :=
  ⟨"GetSparePartsAvailabilityOutput", "get_spare_parts_availability", "spare_parts", sparePartItem⟩

def getProductionScheduleOutput : OutputModel :=
  ⟨"GetProductionScheduleOutput", "get_production_schedule", "schedule", productionScheduleItem⟩

/-! ## Tools -/

def readToolRateLimit : ToolRateLimit := ⟨30, 60, by decide, ToolRateLimit.one_le_minute⟩

def getWorkOrdersDescription : String :=
  "List existing ERP work orders, optionally filtered by exact site_code and status, with a " ++
  "maximum limit of 1-100. Use for requests such as 'show open work orders at PLANT-HCM'. " ++
  "Do not use for due-soonest or production-schedule requests, maintenance-ticket queues, " ++
  "definitions, status changes, or lookup by one exact work-order code/UUID. Read-only."

def getAssetStatusDescription : String :=
  "List current ERP asset status and criticality, optionally for one exact site_code. Use only " ++
  "for asset condition/status requests. Do not use for work orders, maintenance tickets, spare " ++
  "parts, production schedules, explanations, or any mutation. Read-only."

def getMaintenanceTicketsDescription : String :=
  "List maintenance tickets whose status is pending, open, or in_progress, optionally filtered " ++
  "by exact site_code and limited to 1-100 rows. Use for maintenance-ticket queue requests. " ++
  "Do not use for all work orders, due-date schedules, asset status, definitions, or changes. " ++
  "Read-only."

def getSparePartsAvailabilityDescription : String :=
  "List ERP spare-part stock, reorder levels, and below-reorder indicators, optionally filtered " ++
  "by exact site_code and limited to 1-100 rows. Use only for parts availability or inventory " ++
  "requests. Do not use for work orders, assets, schedules, explanations, or stock mutations. " ++
  "Read-only."

def getProductionScheduleDescription : String :=
  "List due-dated work orders ordered by earliest due_at, optionally filtered by exact " ++
  "site_code and limited to 1-100 rows. Use for due-soonest, upcoming, deadline, or production " ++
  "schedule requests. Do not use for generic open-work-order lists, maintenance tickets, " ++
  "definitions, or status changes. Read-only."

/-- A registration whose handler parses the payload, runs a query and validates its rows. -/
def readTool {I : Type} (py : Interpreter) (pydantic : Pydantic) (inputName description : String)
    (parse : Payload → Except PyError I) (dump : I → Payload)
    (query : OperationsDb → I → List (Dict Value)) (output : OutputModel) (permission : Permission)
    (adapter : CollectionResultAdapter) : AssistantToolRegistration OperationsDb where
  definition := {
    name := output.toolName
    description := description
    inputModel := inputModel inputName parse dump
    outputModel := output.modelValidate pydantic
    handler := fun payload db =>
      (db, (parse payload).bind fun data => output.ofRows pydantic (query db data))
    requiredPermission := permission
    siteCodeField := some "site_code"
    rateLimit := some readToolRateLimit }
  resultAdapter := adapter.toEvidence py

section

variable (py : Interpreter) (pydantic : Pydantic)

def buildGetWorkOrdersTool : AssistantToolRegistration OperationsDb :=
  readTool py pydantic "GetWorkOrdersInput" getWorkOrdersDescription
    (GetWorkOrdersInput.parse pydantic) GetWorkOrdersInput.dump
    (fun db data => listWorkOrders db data.siteCode (data.status.map (·.value)) data.limit.value)
    getWorkOrdersOutput .workOrdersRead workOrdersAdapter

def buildGetAssetStatusTool : AssistantToolRegistration OperationsDb :=
  readTool py pydantic "GetAssetStatusInput" getAssetStatusDescription
    (GetAssetStatusInput.parse pydantic) GetAssetStatusInput.dump
    (fun db data => getAssetStatus db data.siteCode)
    getAssetStatusOutput .assetsRead assetsAdapter

def buildGetMaintenanceTicketsTool : AssistantToolRegistration OperationsDb :=
  readTool py pydantic "GetMaintenanceTicketsInput" getMaintenanceTicketsDescription
    (SiteLimitInput.parse pydantic "GetMaintenanceTicketsInput") SiteLimitInput.dump
    (fun db data => listMaintenanceTickets db data.siteCode data.limit.value)
    getMaintenanceTicketsOutput .maintenanceTicketsRead maintenanceTicketsAdapter

def buildGetSparePartsAvailabilityTool : AssistantToolRegistration OperationsDb :=
  readTool py pydantic "GetSparePartsAvailabilityInput" getSparePartsAvailabilityDescription
    (SiteLimitInput.parse pydantic "GetSparePartsAvailabilityInput") SiteLimitInput.dump
    (fun db data => listSparePartsAvailability db data.siteCode data.limit.value)
    getSparePartsAvailabilityOutput .sparePartsRead sparePartsAdapter

def buildGetProductionScheduleTool : AssistantToolRegistration OperationsDb :=
  readTool py pydantic "GetProductionScheduleInput" getProductionScheduleDescription
    (SiteLimitInput.parse pydantic "GetProductionScheduleInput") SiteLimitInput.dump
    (fun db data => listProductionSchedule db data.siteCode data.limit.value)
    getProductionScheduleOutput .productionScheduleRead productionScheduleAdapter

/-- The five read tools. -/
def readTools : List (AssistantToolRegistration OperationsDb) :=
  [buildGetWorkOrdersTool py pydantic, buildGetAssetStatusTool py pydantic,
    buildGetMaintenanceTicketsTool py pydantic, buildGetSparePartsAvailabilityTool py pydantic,
    buildGetProductionScheduleTool py pydantic]

end

end HotAirBalloon.Operations
