import HotAirBalloon.Python.DateTime
import HotAirBalloon.Python.Uuid
import HotAirBalloon.Python.Value

/-!
# The operations database and its read queries

The tables that `repositories/operations.py` reads, with the columns it reads, and the five
queries. A table is the list of its rows in the order in which the server scans them; a join
pairs rows in that order, `ORDER BY` is a stable sort, and texts are compared by the collation
of the database. The repository is built without an authorization policy, so its own
permission checks never run.
-/

namespace HotAirBalloon.Operations

open Python

structure SiteRecord where
  id : Uuid
  code : String

structure AssetRecord where
  id : Uuid
  siteId : Uuid
  code : String
  name : String
  category : String
  criticality : String
  status : String

structure WorkOrderRecord where
  id : Uuid
  siteId : Uuid
  assetId : Uuid
  code : String
  title : String
  description : String
  priority : String
  status : String
  workType : String
  dueAt : Option DateTime
  createdAt : DateTime
  updatedAt : DateTime

structure SparePartRecord where
  id : Uuid
  siteId : Uuid
  code : String
  name : String
  uom : String
  onHandQty : Int
  reorderPoint : Int
  critical : Bool

/-- The database, with its primary keys, its foreign keys and its collation. -/
structure OperationsDb where
  sites : List SiteRecord
  assets : List AssetRecord
  workOrders : List WorkOrderRecord
  spareParts : List SparePartRecord
  collation : String → String → Bool
  siteIds_nodup : (sites.map (·.id)).Nodup
  assetIds_nodup : (assets.map (·.id)).Nodup
  assetSites : ∀ asset ∈ assets, asset.siteId ∈ sites.map (·.id)
  workOrderSites : ∀ workOrder ∈ workOrders, workOrder.siteId ∈ sites.map (·.id)
  workOrderAssets : ∀ workOrder ∈ workOrders, workOrder.assetId ∈ assets.map (·.id)
  sparePartSites : ∀ part ∈ spareParts, part.siteId ∈ sites.map (·.id)

namespace OperationsDb

variable (db : OperationsDb)

/-- `row.site`. -/
def site (siteId : Uuid) : Option SiteRecord := db.sites.find? (fun site => site.id = siteId)

/-- `row.asset`. -/
def asset (assetId : Uuid) : Option AssetRecord := db.assets.find? (fun asset => asset.id = assetId)

/-- `query.join(SiteRecord, …site_id == SiteRecord.id).where(SiteRecord.code == site_code)`,
only when a site code is given. -/
def joinSite {α : Type} (siteId : α → Uuid) (siteCode : Option String) (rows : List α) : List α :=
  match siteCode with
  | none => rows
  | some code => rows.flatMap fun row =>
      (db.sites.filter (fun site => site.id = siteId row ∧ site.code = code)).map (fun _ => row)

end OperationsDb

/-- `ORDER BY key ASC`, by a comparison of keys. -/
def orderBy {α κ : Type} (le : κ → κ → Bool) (key : α → κ) (rows : List α) : List α :=
  rows.mergeSort (fun a b => le (key a) (key b))

/-- `ORDER BY key DESC`. -/
def orderByDesc {α κ : Type} (le : κ → κ → Bool) (key : α → κ) (rows : List α) : List α :=
  rows.mergeSort (fun a b => le (key b) (key a))

/-- A column that may be `NULL`. -/
def nullable {α : Type} (write : α → String) : Option α → Value
  | none => .none
  | some a => .str (write a)

/-- `row.site.code`; the foreign key excludes the `AttributeError` of a missing site. -/
def siteCodeValue (db : OperationsDb) (siteId : Uuid) : Value :=
  nullable SiteRecord.code (db.site siteId)

/-- `row.asset.code if row.asset else None`. -/
def assetCodeValue (db : OperationsDb) (assetId : Uuid) : Value :=
  nullable AssetRecord.code (db.asset assetId)

/-! ## The rows as the queries return them -/

def workOrderRow (db : OperationsDb) (row : WorkOrderRecord) : Dict Value :=
  [("id", .str row.id.str), ("site_id", .str row.siteId.str),
    ("site_code", siteCodeValue db row.siteId), ("asset_id", .str row.assetId.str),
    ("code", .str row.code), ("title", .str row.title), ("description", .str row.description),
    ("priority", .str row.priority), ("status", .str row.status), ("work_type", .str row.workType),
    ("due_at", nullable DateTime.isoformat row.dueAt),
    ("created_at", .str row.createdAt.isoformat), ("updated_at", .str row.updatedAt.isoformat)]

def assetRow (db : OperationsDb) (row : AssetRecord) : Dict Value :=
  [("id", .str row.id.str), ("code", .str row.code), ("name", .str row.name),
    ("category", .str row.category), ("criticality", .str row.criticality),
    ("status", .str row.status), ("site_code", siteCodeValue db row.siteId)]

def maintenanceTicketRow (db : OperationsDb) (row : WorkOrderRecord) : Dict Value :=
  [("ticket_id", .str row.id.str), ("site_code", siteCodeValue db row.siteId),
    ("code", .str row.code), ("title", .str row.title),
    ("asset_code", assetCodeValue db row.assetId), ("priority", .str row.priority),
    ("status", .str row.status), ("due_at", nullable DateTime.isoformat row.dueAt),
    ("work_type", .str row.workType)]

def sparePartRow (db : OperationsDb) (row : SparePartRecord) : Dict Value :=
  [("part_id", .str row.id.str), ("site_code", siteCodeValue db row.siteId),
    ("code", .str row.code), ("name", .str row.name), ("uom", .str row.uom),
    ("on_hand_qty", .int row.onHandQty), ("reorder_point", .int row.reorderPoint),
    ("critical", .bool row.critical), ("below_reorder", .bool (row.onHandQty < row.reorderPoint))]

def scheduleRow (db : OperationsDb) (row : WorkOrderRecord) : Dict Value :=
  [("id", .str row.id.str), ("site_code", siteCodeValue db row.siteId), ("code", .str row.code),
    ("title", .str row.title), ("asset_code", assetCodeValue db row.assetId),
    ("work_type", .str row.workType), ("status", .str row.status),
    ("due_at", nullable DateTime.isoformat row.dueAt), ("priority", .str row.priority)]

/-! ## The queries -/

def listWorkOrders (db : OperationsDb) (siteCode status : Option String) (limit : Nat) :
    List (Dict Value) :=
  ((orderByDesc (fun a b => decide (a ≤ b)) WorkOrderRecord.createdAt
    ((db.joinSite WorkOrderRecord.siteId siteCode db.workOrders).filter
      (fun row => status.all (row.status = ·)))).take limit).map (workOrderRow db)

def getAssetStatus (db : OperationsDb) (siteCode : Option String) : List (Dict Value) :=
  (orderBy db.collation AssetRecord.code (db.joinSite AssetRecord.siteId siteCode db.assets)).map
    (assetRow db)

/-- `WorkOrderRecord.status.in_(["open", "in_progress", "pending"])`. -/
def ticketStatuses : List String := ["open", "in_progress", "pending"]

/-- Priority descending, then creation time descending. -/
def listMaintenanceTickets (db : OperationsDb) (siteCode : Option String) (limit : Nat) :
    List (Dict Value) :=
  ((orderByDesc db.collation WorkOrderRecord.priority
    (orderByDesc (fun a b => decide (a ≤ b)) WorkOrderRecord.createdAt
      ((db.joinSite WorkOrderRecord.siteId siteCode db.workOrders).filter
        (fun row => row.status ∈ ticketStatuses)))).take limit).map (maintenanceTicketRow db)

def listSparePartsAvailability (db : OperationsDb) (siteCode : Option String) (limit : Nat) :
    List (Dict Value) :=
  ((orderBy db.collation SparePartRecord.code
    (db.joinSite SparePartRecord.siteId siteCode db.spareParts)).take limit).map (sparePartRow db)

def listProductionSchedule (db : OperationsDb) (siteCode : Option String) (limit : Nat) :
    List (Dict Value) :=
  ((orderBy (fun a b => decide (a ≤ b)) (fun row => row.dueAt.getD 0)
    ((db.joinSite WorkOrderRecord.siteId siteCode db.workOrders).filter
      (fun row => row.dueAt.isSome))).take limit).map (scheduleRow db)

end HotAirBalloon.Operations
