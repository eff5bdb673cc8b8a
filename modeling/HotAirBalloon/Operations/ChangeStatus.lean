import HotAirBalloon.Library.Resumption
import HotAirBalloon.Library.Table
import HotAirBalloon.Operations.Repository
import HotAirBalloon.Operations.WorkOrderStatus

/-!
# Changing the status of a work order

The use case `ChangeWorkOrderStatus` and two stores for it: one that answers as the use case and
its tests expect, and `WorkOrderStatusRepository`, which the operations module wires. The use case
is a program that calls its store, so that any number of its runs can share one store.
-/

namespace HotAirBalloon.Operations

open Python Library

structure WorkOrderStatusSnapshot where
  id : Uuid
  code : String
  status : WorkOrderStatus
  deriving DecidableEq

/-! ## Errors -/

/-- An f-string of an optional text. -/
def formatOptional : Option String → String
  | none => "None"
  | some text => text

/-- What the use case and its store raise; two of the errors of the domain have an attribute
`current`. -/
structure StatusError extends PyError where
  current : Option WorkOrderStatus := none
  deriving DecidableEq

/-- An error without the attribute. -/
def StatusError.of (e : PyError) : StatusError := { toPyError := e }

def workOrderNotFoundError (workOrderCode : Option String) : StatusError where
  kind := "WorkOrderNotFoundError"
  message := "work order not found: " ++ formatOptional workOrderCode

def workOrderTerminalStatusError (workOrderCode : String) (current : WorkOrderStatus) :
    StatusError where
  kind := "WorkOrderTerminalStatusError"
  message := "work order " ++ workOrderCode ++ " is " ++ current.value ++
    " and can no longer change status"
  current := some current

def invalidWorkOrderStatusTransitionError (workOrderCode : String)
    (current target : WorkOrderStatus) : StatusError :=
  let allowed := ", ".intercalate (current.allowedNextStatuses.map WorkOrderStatus.value)
  { kind := "InvalidWorkOrderStatusTransitionError"
    message := "work order " ++ workOrderCode ++ " cannot move from " ++ current.value ++ " to " ++
      target.value ++ "; allowed next statuses: " ++ (if allowed = "" then "none" else allowed)
    current := some current }

def workOrderStatusConflictError (workOrderCode : String) (expected : WorkOrderStatus) :
    StatusError where
  kind := "WorkOrderStatusConflictError"
  message := "work order " ++ workOrderCode ++ " was no longer " ++ expected.value ++
    " when the update ran; re-read the current status and retry"

def workOrderStatusReasonRequiredError (workOrderCode : String) (target : WorkOrderStatus) :
    StatusError where
  kind := "WorkOrderStatusReasonRequiredError"
  message := "moving work order " ++ workOrderCode ++ " to " ++ target.value ++ " requires a reason"

/-- The subclasses of `DomainError` in `operations/domain/errors.py`. -/
def isDomainError (e : PyError) : Bool :=
  e.kind ∈ ["WorkOrderNotFoundError", "WorkOrderTerminalStatusError",
    "InvalidWorkOrderStatusTransitionError", "WorkOrderStatusConflictError",
    "WorkOrderStatusReasonRequiredError"]

/-! ## The use case -/

structure ChangeWorkOrderStatusCommand where
  targetStatus : WorkOrderStatus
  workOrderCode : Option String := none
  workOrderId : Option Uuid := none
  reason : Option String := none

structure ChangeWorkOrderStatusResult where
  workOrderCode : String
  previousStatus : WorkOrderStatus
  currentStatus : WorkOrderStatus
  changed : Bool
  updatedAt : Option DateTime
  deriving DecidableEq

/-- What a store may hand back from a lookup; Python does not check its type. -/
inductive LookupResult where
  | none
  | snapshot (snapshot : WorkOrderStatusSnapshot)
  | snapshots (snapshots : List WorkOrderStatusSnapshot)
  deriving DecidableEq

namespace LookupResult

def isNone : LookupResult → Bool
  | none => true
  | _ => false

/-- The snapshot whose attributes are read, `status` first. -/
def attributes : LookupResult → Except StatusError WorkOrderStatusSnapshot
  | none =>
    throw { kind := "AttributeError", message := "'NoneType' object has no attribute 'status'" }
  | snapshot s => return s
  | snapshots _ =>
    throw { kind := "AttributeError", message := "'list' object has no attribute 'status'" }

end LookupResult

/-- The calls of the use case to its store; `find_status_by_id` is not among them. -/
inductive StoreOp where
  | findStatusByCode (workOrderCode : Option String)
  | applyStatus (workOrderId : Uuid) (expectedStatus newStatus : WorkOrderStatus)

abbrev StoreOp.Reply : StoreOp → Type
  | findStatusByCode _ => LookupResult
  | applyStatus _ _ _ => Option DateTime

abbrev StoreAction (α : Type) := Prog StatusError StoreOp StoreOp.Reply α

namespace ChangeWorkOrderStatus

/-- `not command.reason`. -/
def lacksReason (command : ChangeWorkOrderStatusCommand) : Bool :=
  command.reason.all (fun reason => reason = "")

/-- The end of `execute`, after the snapshot was found. -/
def change (command : ChangeWorkOrderStatusCommand) (snapshot : WorkOrderStatusSnapshot) :
    StoreAction ChangeWorkOrderStatusResult :=
  let current := snapshot.status
  let target := command.targetStatus
  if current = target then
    return {
      workOrderCode := snapshot.code
      previousStatus := current
      currentStatus := current
      changed := false
      updatedAt := none }
  else if current.isTerminal then Prog.raise (workOrderTerminalStatusError snapshot.code current)
  else if !current.isTransitionAllowed target then
    Prog.raise (invalidWorkOrderStatusTransitionError snapshot.code current target)
  else if target.requiresReason && lacksReason command then
    Prog.raise (workOrderStatusReasonRequiredError snapshot.code target)
  else do
    match ← Prog.perform (StoreOp.applyStatus snapshot.id current target) with
    | none => Prog.raise (workOrderStatusConflictError snapshot.code current)
    | some updatedAt =>
      return {
        workOrderCode := snapshot.code
        previousStatus := current
        currentStatus := target
        changed := true
        updatedAt := some updatedAt }

/-- `execute`. -/
def execute (command : ChangeWorkOrderStatusCommand) : StoreAction ChangeWorkOrderStatusResult := do
  let found ← Prog.perform (StoreOp.findStatusByCode command.workOrderCode)
  if found.isNone then Prog.raise (workOrderNotFoundError command.workOrderCode)
  else
    let snapshot ← Prog.ofExcept found.attributes
    change command snapshot

end ChangeWorkOrderStatus

/-! ## A store that answers with a snapshot or none -/

/-- A row's status was changed by a call. -/
structure StatusChange (ι : Type) where
  caller : ι
  workOrderId : Uuid
  previous : WorkOrderStatus
  current : WorkOrderStatus
  deriving DecidableEq

/-- The rows of a store, and every change that it has made to them. -/
structure StoreWorld (ι : Type) where
  orders : Table WorkOrderStatusSnapshot.id
  changes : List (StatusChange ι)

/-- How a call of the store goes: which of the orders with a code is found, and the time of an
update; or an error, which changes nothing. -/
inductive StoreChoice where
  | answers (pick : Nat) (now : DateTime)
  | fails (e : StatusError)

section

variable {ι : Type}

def findOrder (workOrderCode : Option String) (pick : Nat)
    (orders : Table WorkOrderStatusSnapshot.id) : Option LookupResult :=
  match orders.rows.filter (fun order => some order.code = workOrderCode) with
  | [] => some .none
  | order :: rest => ((order :: rest)[pick]?).map .snapshot

/-- `UPDATE … WHERE id = … AND status = …`. -/
def compareAndSet (caller : ι) (workOrderId : Uuid) (expected new : WorkOrderStatus)
    (now : DateTime) (w : StoreWorld ι) : Option DateTime × StoreWorld ι :=
  match w.orders.find? workOrderId with
  | some order =>
    if order.status = expected then
      (some now, {
        orders := w.orders.put { order with status := new }
        changes := w.changes ++ [⟨caller, workOrderId, expected, new⟩] })
    else (none, w)
  | none => (none, w)

def storeExec : Exec ι StatusError StoreOp StoreOp.Reply StoreChoice (StoreWorld ι) :=
  fun i op choice w =>
    match choice with
    | .fails e => some (.error e, w)
    | .answers pick now =>
      match op with
      | .findStatusByCode workOrderCode =>
        (findOrder workOrderCode pick w.orders).map (fun found => (.ok found, w))
      | .applyStatus workOrderId expected new =>
        let (reply, w') := compareAndSet i workOrderId expected new now w
        some (.ok reply, w')

end

/-! ## The repository -/

namespace WorkOrderStatusRepository

/-- `WorkOrderStatus(value)`. -/
def statusOf (value : String) : Except PyError WorkOrderStatus :=
  match WorkOrderStatus.ofValue? value with
  | some status => return status
  | none => throw (PyError.valueError ("'" ++ value ++ "' is not a valid WorkOrderStatus"))

/-- `_snapshot`. -/
def snapshot (row : WorkOrderRecord) : Except PyError WorkOrderStatusSnapshot := do
  let status ← statusOf row.status
  return ⟨row.id, row.code, status⟩

/-- `find_status_by_code`, without a site code; comparison with `None` becomes `IS NULL`. -/
def findStatusByCode (workOrderCode : Option String) (db : OperationsDb) :
    Except PyError (List WorkOrderStatusSnapshot) :=
  (db.workOrders.filter (fun row => some row.code = workOrderCode)).mapM snapshot

/-- The row after `UPDATE … SET status, updated_at`, if the statement matches it. -/
def updated (workOrderId : Uuid) (expected new : WorkOrderStatus) (now : DateTime)
    (row : WorkOrderRecord) : WorkOrderRecord :=
  if row.id = workOrderId ∧ row.status = expected.value then
    { row with status := new.value, updatedAt := now }
  else row

theorem updated_siteId (workOrderId : Uuid) (expected new : WorkOrderStatus) (now : DateTime)
    (row : WorkOrderRecord) : (updated workOrderId expected new now row).siteId = row.siteId := by
  unfold updated
  split <;> rfl

theorem updated_assetId (workOrderId : Uuid) (expected new : WorkOrderStatus) (now : DateTime)
    (row : WorkOrderRecord) : (updated workOrderId expected new now row).assetId = row.assetId := by
  unfold updated
  split <;> rfl

/-- `apply_status`. -/
def applyStatus (workOrderId : Uuid) (expected new : WorkOrderStatus) (now : DateTime)
    (db : OperationsDb) : Option DateTime × OperationsDb :=
  if db.workOrders.any (fun row => row.id = workOrderId ∧ row.status = expected.value) then
    (some now, { db with
      workOrders := db.workOrders.map (updated workOrderId expected new now)
      workOrderSites := by
        intro row hrow
        obtain ⟨old, hold, rfl⟩ := List.mem_map.mp hrow
        rw [updated_siteId]
        exact db.workOrderSites old hold
      workOrderAssets := by
        intro row hrow
        obtain ⟨old, hold, rfl⟩ := List.mem_map.mp hrow
        rw [updated_assetId]
        exact db.workOrderAssets old hold })
  else (none, db)

/-- The repository as the store of the use case, at a reading of the clock. -/
def exec : Exec Unit StatusError StoreOp StoreOp.Reply DateTime OperationsDb := fun _ op now db =>
  match op with
  | .findStatusByCode workOrderCode =>
    some (((findStatusByCode workOrderCode db).map .snapshots).mapError .of, db)
  | .applyStatus workOrderId expected new =>
    let (reply, db') := applyStatus workOrderId expected new now db
    some (.ok reply, db')

end WorkOrderStatusRepository

end HotAirBalloon.Operations
