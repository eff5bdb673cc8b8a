import HotAirBalloon.Operations.WriteScope

/-!
# The permissions of the status change

The roles keep completing and cancelling a work order apart from changing its status, and a
technician has only the last of these. The tool asks for the permission to change a status before it
looks at the target, so whoever has that one completes and cancels what the lookup finds.
-/

namespace HotAirBalloon.Operations

open Python Gateway User Library

/-- A call of the tool by the actor completes or cancels an order only with the permission for
that. -/
def StatusesPermitted (registry : ToolRegistry SiteOrders) (ctx : AuthorizationContext)
    (orders : Table SiteOrder.id) : Prop :=
  ∀ payload conversationId (s : GatewayState SiteOrders FixedWindowRateLimiter),
    s.world.orders = orders →
    ∀ order ∈ orders, ∀ order' ∈ (exec ((buildToolGateway registry true
        FixedWindowRateLimiter.tryConsume).invoke "write_work_order_status" payload ctx
        conversationId) s).2.world.orders,
      order'.id = order.id → order'.status ≠ order.status →
        (order'.status = .completed → Permission.workOrdersComplete ∈ ctx.permissions) ∧
        (order'.status = .cancelled → Permission.workOrdersCancel ∈ ctx.permissions)

/-- The input that completes the order with a code. -/
def completing (workOrderCode : TrimmedText 1 100) : WriteWorkOrderStatusInput where
  workOrderId := none
  workOrderCode := some workOrderCode
  targetStatus := .completed
  siteCode := none
  reason := some ⟨"repaired", by decide, by decide, by decide⟩

theorem changeable_completing {order : SiteOrder} (h : order.status = .inProgress)
    (workOrderCode : TrimmedText 1 100) : Changeable (completing workOrderCode).command order where
  differs := by
    rw [h]
    intro heq
    cases heq
  notTerminal := by
    rw [h]
    rfl
  allowed := by
    rw [h]
    rfl
  reason := by
    simp [completing, WriteWorkOrderStatusInput.command, ChangeWorkOrderStatus.lacksReason]

/-- Only an order in progress is completed. -/
theorem Changeable.inProgress {command : ChangeWorkOrderStatusCommand} {order : SiteOrder}
    (h : Changeable command order) (htarget : command.targetStatus = .completed) :
    order.status = .inProgress := by
  have hallowed := h.allowed
  rw [htarget] at hallowed
  revert hallowed
  cases order.status <;> decide

section

variable {py : Interpreter} {pydantic : LaxPydantic} {lookup : SiteLookup}
  {registry : ToolRegistry SiteOrders} {ctx : AuthorizationContext} {orders : Table SiteOrder.id}

/-- Under the condition of the property, what the actor's own call has done is permitted. -/
theorem StatusesPermitted.of_changing (h : StatusesPermitted registry ctx orders)
    (hget : registry.get "write_work_order_status" =
      some (buildWriteWorkOrderStatusTool py pydantic (siteStore lookup)))
    (hpermission : Permission.workOrdersChangeStatus ∈ ctx.permissions) {order : SiteOrder}
    {data : WriteWorkOrderStatusInput}
    (hfind : lookup.find data.command.workOrderCode none orders = some order)
    (hchangeable : Changeable data.command order) :
    (data.targetStatus = .completed → Permission.workOrdersComplete ∈ ctx.permissions) ∧
      (data.targetStatus = .cancelled → Permission.workOrdersCancel ∈ ctx.permissions) := by
  obtain ⟨hmem, -⟩ := lookup.found _ _ _ _ hfind
  have hchanged : { order with status := data.targetStatus } ∈
      (exec ((buildToolGateway registry true FixedWindowRateLimiter.tryConsume).invoke
        "write_work_order_status" data.dump ctx none)
        ⟨⟨orders, 0⟩, .new 0, []⟩).2.world.orders := by
    rw [exec_changing hget hpermission hfind hchangeable]
    exact Table.mem_put.mpr (Or.inl rfl)
  have hdiffers : data.targetStatus ≠ order.status := hchangeable.differs.symm
  exact h data.dump none ⟨⟨orders, 0⟩, .new 0, []⟩ rfl order hmem _ hchanged rfl hdiffers

/-- The actor's calls complete and cancel with permission exactly when the actor may not change a
status at all, or may complete or finds no order in progress, and may cancel or finds no order that
is still open. -/
theorem statusesPermitted_iff
    (hget : registry.get "write_work_order_status" =
      some (buildWriteWorkOrderStatusTool py pydantic (siteStore lookup)))
    (ctx : AuthorizationContext) (orders : Table SiteOrder.id) :
    StatusesPermitted registry ctx orders ↔
      Permission.workOrdersChangeStatus ∉ ctx.permissions ∨
        (Permission.workOrdersComplete ∈ ctx.permissions ∨
          ∀ order, Reachable lookup orders order → order.status ≠ .inProgress) ∧
        (Permission.workOrdersCancel ∈ ctx.permissions ∨
          ∀ order, Reachable lookup orders order → order.status.isTerminal = true) := by
  constructor
  · intro hpermitted
    by_cases hpermission : Permission.workOrdersChangeStatus ∈ ctx.permissions
    · refine Or.inr ⟨?_, ?_⟩
      · by_contra hnot
        push Not at hnot
        obtain ⟨hcomplete, order, ⟨workOrderCode, hfind⟩, hprogress⟩ := hnot
        have hcode : lookup.find (completing workOrderCode).command.workOrderCode none orders =
            some order := hfind
        have hown := hpermitted.of_changing hget hpermission hcode
          (changeable_completing hprogress workOrderCode)
        exact hcomplete (hown.1 rfl)
      · by_contra hnot
        push Not at hnot
        obtain ⟨hcancel, order, ⟨workOrderCode, hfind⟩, hterminal⟩ := hnot
        have hopen : order.status.isTerminal = false := by simpa using hterminal
        have hcode : lookup.find (cancelling workOrderCode).command.workOrderCode none orders =
            some order := hfind
        have hown := hpermitted.of_changing hget hpermission hcode
          (changeable_cancelling hopen workOrderCode)
        exact hcancel (hown.2 rfl)
    · exact Or.inl hpermission
  · intro hcond payload conversationId s horders order horder order' horder' hid hchanged
    subst horders
    obtain ⟨hpermission, hreachable, data, -, hchangeable, htarget⟩ :=
      changed_by_write hget horder horder' hid hchanged
    rcases hcond with hnone | ⟨hcomplete, hcancel⟩
    · exact absurd hpermission hnone
    rw [htarget]
    constructor
    · intro hcompleted
      rcases hcomplete with hallowed | hnone
      · exact hallowed
      · exact absurd (hchangeable.inProgress hcompleted) (hnone order hreachable)
    · intro hcancelled
      rcases hcancel with hallowed | hnone
      · exact hallowed
      · have hterminal := hnone order hreachable
        rw [hchangeable.notTerminal] at hterminal
        cases hterminal

end

theorem statusesPermitted_iff_technician :
    StatusesPermitted writeRegistry technician otherPlantOrders ↔
      Permission.workOrdersChangeStatus ∉ technician.permissions ∨
        (Permission.workOrdersComplete ∈ technician.permissions ∨
          ∀ order, Reachable firstMatch otherPlantOrders order → order.status ≠ .inProgress) ∧
        (Permission.workOrdersCancel ∈ technician.permissions ∨
          ∀ order, Reachable firstMatch otherPlantOrders order → order.status.isTerminal = true) :=
  statusesPermitted_iff rfl technician otherPlantOrders

/-- An order in progress at the technician's own plant. -/
def ownPlantOrders : Table SiteOrder.id :=
  ⟨[⟨Uuid.ofNat 8, "PLANT-1", "WO-1001", .inProgress⟩], by simp⟩

theorem technician_may_not_complete :
    Permission.workOrdersComplete ∉ technician.permissions ∧
      Permission.workOrdersCancel ∉ technician.permissions := by
  decide

/-- A technician completes an order without a supervisor. -/
theorem technician_completes : ¬ StatusesPermitted writeRegistry technician ownPlantOrders := by
  intro hpermitted
  have hget : writeRegistry.get "write_work_order_status" =
      some (buildWriteWorkOrderStatusTool .ascii exactPydantic (siteStore firstMatch)) := rfl
  have hfind : firstMatch.find (completing orderCode).command.workOrderCode none ownPlantOrders =
      some ⟨Uuid.ofNat 8, "PLANT-1", "WO-1001", .inProgress⟩ := rfl
  have hown := hpermitted.of_changing hget technician_permitted hfind
    (changeable_completing rfl orderCode)
  exact technician_may_not_complete.1 (hown.1 rfl)

end HotAirBalloon.Operations
