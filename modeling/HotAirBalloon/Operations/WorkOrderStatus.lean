import HotAirBalloon.Python.Value

/-!
# The statuses of a work order

`work_order_status.py`: the statuses, the transitions that are allowed between them, and the
statuses that need a reason.
-/

namespace HotAirBalloon.Operations

open Python

inductive WorkOrderStatus where
  | pending
  | open_
  | inProgress
  | completed
  | cancelled
  deriving DecidableEq

namespace WorkOrderStatus

def value : WorkOrderStatus → String
  | pending => "pending"
  | open_ => "open"
  | inProgress => "in_progress"
  | completed => "completed"
  | cancelled => "cancelled"

/-- `WorkOrderStatus(text)`. -/
def ofValue? (text : String) : Option WorkOrderStatus :=
  [pending, open_, inProgress, completed, cancelled].find? (fun status => status.value = text)

theorem ofValue?_value (status : WorkOrderStatus) : ofValue? status.value = some status := by
  cases status <;> decide

/-- `_ALLOWED_TRANSITIONS`. -/
def allowedTransitions : WorkOrderStatus → List WorkOrderStatus
  | pending => [open_, cancelled]
  | open_ => [inProgress, cancelled]
  | inProgress => [open_, completed, cancelled]
  | completed => []
  | cancelled => []

/-- `_STATUSES_REQUIRING_REASON`. -/
def statusesRequiringReason : List WorkOrderStatus := [completed, cancelled]

def allowedNextStatuses (current : WorkOrderStatus) : List WorkOrderStatus :=
  (allowedTransitions current).mergeSort (fun a b => decide (a.value ≤ b.value))

def isTerminal (status : WorkOrderStatus) : Bool := (allowedTransitions status).isEmpty

def isTransitionAllowed (current target : WorkOrderStatus) : Bool :=
  target ∈ allowedTransitions current

def requiresReason (target : WorkOrderStatus) : Bool := target ∈ statusesRequiringReason

end WorkOrderStatus

end HotAirBalloon.Operations
