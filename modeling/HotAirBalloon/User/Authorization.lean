import HotAirBalloon.Python.Uuid

/-!
# Authorization

Permissions, roles and the authorization context of `user/domain/authorization.py`. A
`frozenset` is a list; the one of site codes is iterated and counted by its users, so it
has no repetitions.
-/

namespace HotAirBalloon.User

open Python

inductive Permission where
  | usersManage
  | rolesManage
  | workOrdersRead
  | workOrdersUpdate
  | workOrdersChangeStatus
  | workOrdersComplete
  | workOrdersCancel
  | maintenanceTicketsRead
  | maintenanceTicketsUpdate
  | assetsRead
  | assetsUpdate
  | sparePartsRead
  | sparePartsIssue
  | sparePartsAdjustInventory
  | productionScheduleRead
  | productionScheduleUpdate
  | productionSchedulePublish
  | documentsRead
  | documentsUpload
  | documentsDelete
  | reportsRead
  | auditLogsRead
  | webSearch
  deriving DecidableEq

namespace Permission

/-- The value of the enumeration member. -/
def value : Permission → String
  | usersManage => "users:manage"
  | rolesManage => "roles:manage"
  | workOrdersRead => "work_orders:read"
  | workOrdersUpdate => "work_orders:update"
  | workOrdersChangeStatus => "work_orders:change_status"
  | workOrdersComplete => "work_orders:complete"
  | workOrdersCancel => "work_orders:cancel"
  | maintenanceTicketsRead => "maintenance_tickets:read"
  | maintenanceTicketsUpdate => "maintenance_tickets:update"
  | assetsRead => "assets:read"
  | assetsUpdate => "assets:update"
  | sparePartsRead => "spare_parts:read"
  | sparePartsIssue => "spare_parts:issue"
  | sparePartsAdjustInventory => "spare_parts:adjust_inventory"
  | productionScheduleRead => "production_schedule:read"
  | productionScheduleUpdate => "production_schedule:update"
  | productionSchedulePublish => "production_schedule:publish"
  | documentsRead => "documents:read"
  | documentsUpload => "documents:upload"
  | documentsDelete => "documents:delete"
  | reportsRead => "reports:read"
  | auditLogsRead => "audit_logs:read"
  | webSearch => "web_search"

/-- `frozenset(Permission)`. -/
def all : List Permission :=
  [usersManage, rolesManage, workOrdersRead, workOrdersUpdate, workOrdersChangeStatus,
    workOrdersComplete, workOrdersCancel, maintenanceTicketsRead, maintenanceTicketsUpdate,
    assetsRead, assetsUpdate, sparePartsRead, sparePartsIssue, sparePartsAdjustInventory,
    productionScheduleRead, productionScheduleUpdate, productionSchedulePublish, documentsRead,
    documentsUpload, documentsDelete, reportsRead, auditLogsRead, webSearch]

theorem mem_all (p : Permission) : p ∈ all := by cases p <;> decide

end Permission

inductive RoleName where
  | systemAdministrator
  | operationsManager
  | readOnlyAnalyst
  | maintenanceTechnician
  | maintenanceSupervisor
  deriving DecidableEq

open Permission

/-- `_READ_OPERATIONS`. -/
def readOperations : List Permission :=
  [workOrdersRead, maintenanceTicketsRead, assetsRead, sparePartsRead, productionScheduleRead]

/-- `ROLE_DEFINITIONS[role].permissions`. -/
def rolePermissions : RoleName → List Permission
  | .systemAdministrator => Permission.all
  | .operationsManager => readOperations ++
      [workOrdersUpdate, workOrdersChangeStatus, workOrdersComplete, workOrdersCancel,
        maintenanceTicketsUpdate, productionScheduleUpdate, productionSchedulePublish,
        documentsRead, documentsUpload, reportsRead, auditLogsRead, webSearch]
  | .readOnlyAnalyst => readOperations ++ [documentsRead, reportsRead, auditLogsRead, webSearch]
  | .maintenanceTechnician =>
      [workOrdersRead, workOrdersUpdate, workOrdersChangeStatus, maintenanceTicketsRead,
        maintenanceTicketsUpdate, assetsRead, sparePartsRead, sparePartsIssue, documentsRead,
        documentsUpload, webSearch]
  | .maintenanceSupervisor =>
      [workOrdersRead, workOrdersUpdate, workOrdersChangeStatus, workOrdersComplete,
        workOrdersCancel, maintenanceTicketsRead, maintenanceTicketsUpdate, assetsRead,
        sparePartsRead, sparePartsIssue, documentsRead, documentsUpload, reportsRead, webSearch]

structure AuthorizationContext where
  userId : Uuid
  roles : List RoleName
  siteCodes : List String := []
  globalScope : Bool := false
  siteCodes_nodup : siteCodes.Nodup := by decide

namespace AuthorizationContext

def permissions (ctx : AuthorizationContext) : List Permission := ctx.roles.flatMap rolePermissions

def can (ctx : AuthorizationContext) (permission : Permission) (siteCode : Option String) : Bool :=
  if permission ∉ ctx.permissions then false
  else
    match siteCode with
    | none => true
    | some code => ctx.globalScope || ctx.siteCodes.contains code

/-- Without global scope, a permission on a named site means that the site is the actor's. -/
theorem mem_siteCodes_of_can {ctx : AuthorizationContext} {permission : Permission} {code : String}
    (hscope : ctx.globalScope = false) (h : ctx.can permission (some code) = true) :
    code ∈ ctx.siteCodes := by
  unfold can at h
  split at h
  · cases h
  · simpa [hscope] using h

end AuthorizationContext

end HotAirBalloon.User
