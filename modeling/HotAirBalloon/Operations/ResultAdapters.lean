import HotAirBalloon.Python.Interpreter
import HotAirBalloon.Gateway.Domain

/-!
# Result adapters of the read tools

`CollectionResultAdapter` of `tools/result_adapters.py` and its five instances: a tool's
output as one collection of evidence items. An adapter checks the output against the applied
payload and raises `EvidenceAdaptationError` where they disagree.
-/

namespace HotAirBalloon.Operations

open Python Kernel Gateway

structure CollectionResultAdapter where
  evidenceId : String
  collectionField : String
  entityLabel : String
  entityLabelPlural : String
  identifierFields : List String
  labelFields : List String
  displayedFields : List (String × String)
  filterFields : List (String × String)
  orderField : Option String := none

/-- `data.get(name)`, an explicit `None` being the same as an absent key. -/
def presentValue (data : Dict Value) (name : String) : Option Value :=
  match data.get? name with
  | some value => if value.isNone then none else some value
  | none => none

/-- A value as an evidence scalar; dumps of the output models hold no nested values. -/
def toScalar : Value → EvidenceScalar
  | .str s => .str s
  | .int i => .int i
  | .float x => .float x
  | .bool b => .bool b
  | _ => .none

/-- The fields of `names` that are present, with their labels. -/
def evidenceFields (data : Dict Value) (names : List (String × String)) : List EvidenceField :=
  names.filterMap fun (name, label) =>
    (presentValue data name).map fun value =>
      { name := name, label := label, value := toScalar value }

namespace CollectionResultAdapter

variable (py : Interpreter) (adapter : CollectionResultAdapter)

/-- A filter that the record contradicts. -/
def conflict (appliedPayload record : Dict Value) : Option String :=
  (adapter.filterFields.find? fun (name, _) =>
    match presentValue appliedPayload name with
    | none => false
    | some expected =>
      py.casefold (py.str ((record.get? name).getD .none)) ≠
        py.casefold (py.str expected)).map (·.1)

/-- The evidence item of a record. -/
def item (appliedPayload record : Dict Value) : Except PyError EvidenceItem :=
  match conflict py adapter appliedPayload record with
  | some name => throw (evidenceAdaptationError ("record conflicts with " ++ name))
  | none =>
    match adapter.identifierFields.findSome? (fun field =>
      (presentValue record field).map py.str) with
    | none => throw (evidenceAdaptationError "record has no identifier")
    | some entityId =>
      let labelParts := adapter.labelFields.filterMap
        (fun field => (presentValue record field).map py.str)
      let label := " - ".intercalate labelParts
      return {
        evidenceId := adapter.evidenceId ++ ":" ++ entityId
        entityId := entityId
        label := if label = "" then entityId else label
        fields := evidenceFields record adapter.displayedFields }

/-- The order value of a record, when the adapter checks an order. -/
def orderValue (record : Dict Value) : Except PyError (Option String) :=
  match adapter.orderField with
  | none => return none
  | some field =>
    match record.get? field with
    | some (.str value) => return some value
    | _ => throw (evidenceAdaptationError ("record lacks " ++ field))

/-- One round of the loop over the records. -/
def adaptRecord (appliedPayload : Dict Value) (record : Value) :
    Except PyError (EvidenceItem × Option String) :=
  match record with
  | .dict data => do
    let evidenceItem ← item py adapter appliedPayload data
    let value ← orderValue adapter data
    return (evidenceItem, value)
  | _ => throw (evidenceAdaptationError "record is not an object")

/-- `limit`, when it is an integer and not a bool. -/
def requestedCount (appliedPayload : Dict Value) : Option Int :=
  match appliedPayload.get? "limit" with
  | some (.int limit) => some limit
  | _ => none

/-- `to_evidence`. -/
def toEvidence : ToolResultAdapter := fun appliedPayload output =>
  match output.get? adapter.collectionField with
  | some (.list records) =>
    let requested := requestedCount appliedPayload
    if requested.any (fun (limit : Int) => decide (limit < records.length)) then
      throw (evidenceAdaptationError "collection exceeds applied limit")
    else do
      let adapted ← records.mapM (adaptRecord py adapter appliedPayload)
      let orderedValues : List String := adapted.filterMap (fun record => record.2)
      if orderedValues ≠ orderedValues.mergeSort (fun a b => decide (a ≤ b)) then
        throw (evidenceAdaptationError "records are incorrectly ordered")
      else return [.collection {
        evidenceId := adapter.evidenceId
        entityLabel := adapter.entityLabel
        entityLabelPlural := adapter.entityLabelPlural
        filters := evidenceFields appliedPayload adapter.filterFields
        requestedCount := requested
        items := adapted.map (fun record => record.1) }]
  | _ => throw (evidenceAdaptationError "collection is missing")

end CollectionResultAdapter

def workOrdersAdapter : CollectionResultAdapter where
  evidenceId := "work-orders"
  collectionField := "work_orders"
  entityLabel := "work order"
  entityLabelPlural := "work orders"
  identifierFields := ["code", "id"]
  labelFields := ["code", "title"]
  displayedFields := [("status", "Status"), ("priority", "Priority"), ("due_at", "Due")]
  filterFields := [("site_code", "Site"), ("status", "Status")]

def assetsAdapter : CollectionResultAdapter where
  evidenceId := "assets"
  collectionField := "assets"
  entityLabel := "asset"
  entityLabelPlural := "assets"
  identifierFields := ["code", "id"]
  labelFields := ["code", "name"]
  displayedFields := [("status", "Status"), ("criticality", "Criticality")]
  filterFields := [("site_code", "Site")]

def maintenanceTicketsAdapter : CollectionResultAdapter where
  evidenceId := "maintenance-tickets"
  collectionField := "tickets"
  entityLabel := "maintenance ticket"
  entityLabelPlural := "maintenance tickets"
  identifierFields := ["code", "ticket_id"]
  labelFields := ["code", "title"]
  displayedFields := [("status", "Status"), ("priority", "Priority"), ("due_at", "Due")]
  filterFields := [("site_code", "Site")]

def sparePartsAdapter : CollectionResultAdapter where
  evidenceId := "spare-parts"
  collectionField := "spare_parts"
  entityLabel := "spare part"
  entityLabelPlural := "spare parts"
  identifierFields := ["code", "part_id"]
  labelFields := ["code", "name"]
  displayedFields :=
    [("on_hand_qty", "On hand"), ("reorder_point", "Reorder point"),
      ("below_reorder", "Below reorder")]
  filterFields := [("site_code", "Site")]

def productionScheduleAdapter : CollectionResultAdapter where
  evidenceId := "production-schedule"
  collectionField := "schedule"
  entityLabel := "scheduled work order"
  entityLabelPlural := "scheduled work orders"
  identifierFields := ["code", "id"]
  labelFields := ["code", "title"]
  displayedFields := [("status", "Status"), ("due_at", "Due"), ("priority", "Priority")]
  filterFields := [("site_code", "Site")]
  orderField := some "due_at"

end HotAirBalloon.Operations
