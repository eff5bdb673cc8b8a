import HotAirBalloon.Gateway.WebSearch
import HotAirBalloon.Operations.WriteScope

/-!
# What is reported of a change

The registration of the status change has the adapter of the read tool for work orders, which looks
for a collection of work orders in the output. The output of the change has none, so the gateway
reports a failed call, after the change has been committed. Neither this tool nor the web search is
ever reported as a success.
-/

namespace HotAirBalloon.Operations

open Python Kernel Gateway User Library

variable {W L : Type} {gateway : ToolGateway W L} {toolName : String} {payload : Payload}
  {ctx : AuthorizationContext} {conversationId : Option Uuid} {s : GatewayState W L}
  {validated raw : Payload} {py : Interpreter} {pydantic : LaxPydantic}
  {store : WorkOrderStatusStore W}

/-- What the handler returns is the dump of an output. -/
theorem dump_of_writeWorkOrderStatus {w : W}
    (h : (writeWorkOrderStatus pydantic store payload w).2 = .ok raw) :
    ∃ output : WriteWorkOrderStatusOutput, raw = output.dump := by
  unfold writeWorkOrderStatus at h
  split at h
  · cases h
  · rename_i data _
    dsimp only at h
    rcases houtput : outputOf data
      ((ChangeWorkOrderStatus.execute data.command).interpret store w).1 with e | output
    · rw [houtput] at h
      cases h
    · rw [houtput] at h
      cases h
      exact ⟨output, rfl⟩

/-- No output of the change is a collection of work orders. -/
theorem toEvidence_output (py : Interpreter) (appliedPayload : Payload)
    (output : WriteWorkOrderStatusOutput) :
    workOrdersAdapter.toEvidence py appliedPayload output.dump =
      .error (evidenceAdaptationError "collection is missing") := by
  have hmissing : output.dump.get? "work_orders" = none := rfl
  unfold CollectionResultAdapter.toEvidence
  dsimp only [workOrdersAdapter]
  rw [hmissing]
  rfl

/-- A change that has succeeded is reported as failed. -/
theorem writeWorkOrderStatus_reportsFailure
    (h : HandlerSucceeds gateway toolName payload ctx conversationId s
      (buildWriteWorkOrderStatusTool py pydantic store) validated raw) :
    ∃ record, (exec (gateway.invoke toolName payload ctx conversationId) s).1 = .ok record ∧
      record.status = .failed := by
  obtain ⟨output, rfl⟩ := dump_of_writeWorkOrderStatus h.returns
  have hvalid :
      (buildWriteWorkOrderStatusTool py pydantic store).definition.outputModel output.dump =
      .ok output.dump := by
    change (WriteWorkOrderStatusOutput.parse pydantic output.dump).map _ = _
    rw [WriteWorkOrderStatusOutput.parse_dump]
    rfl
  obtain ⟨s', hexec⟩ := h.exec_eq rfl hvalid
  have hadapter : (buildWriteWorkOrderStatusTool py pydantic store).resultAdapter validated
      output.dump = .error (evidenceAdaptationError "collection is missing") :=
    toEvidence_output py validated output
  have hkind : (evidenceAdaptationError "collection is missing").kind =
      "EvidenceAdaptationError" := rfl
  rw [hexec]
  unfold adaptResult
  rw [hadapter]
  dsimp only
  rw [if_pos hkind]
  exact ⟨_, rfl, rfl⟩

/-- Neither a status change nor a web search whose handler has succeeded is reported as a
success. -/
theorem success_never_reported (gateway : ToolGateway W L) (py : Interpreter)
    (pydantic : LaxPydantic) (store : WorkOrderStatusStore W) (provider : WebSearchPort W)
    (toolName : String) (payload : Payload) (ctx : AuthorizationContext)
    (conversationId : Option Uuid) (s : GatewayState W L)
    (registration : AssistantToolRegistration W)
    (hbuilt : registration = buildWriteWorkOrderStatusTool py pydantic store ∨
      registration = buildWebSearchTool pydantic provider)
    (validated raw : Payload)
    (h : HandlerSucceeds gateway toolName payload ctx conversationId s registration validated raw) :
    ¬ ReportsSuccess (exec (gateway.invoke toolName payload ctx conversationId) s).1 := by
  rintro ⟨record, hrecord, hsuccess, -⟩
  rcases hbuilt with rfl | rfl
  · obtain ⟨failed, hfailed, hstatus⟩ := writeWorkOrderStatus_reportsFailure h
    rw [hfailed] at hrecord
    cases hrecord
    rw [hstatus] at hsuccess
    cases hsuccess
  · rw [webSearch_raises h] at hrecord
    cases hrecord

/-- The gateway of the fixtures, with write tools allowed. -/
def writeGateway : ToolGateway SiteOrders FixedWindowRateLimiter :=
  buildToolGateway writeRegistry true FixedWindowRateLimiter.tryConsume

def openOrders : GatewayState SiteOrders FixedWindowRateLimiter :=
  ⟨⟨otherPlantOrders, 0⟩, .new 0, []⟩

def cancelledOutput : WriteWorkOrderStatusOutput :=
  succeededOutput ⟨"WO-1001", .open_, .cancelled, true, some 0⟩

theorem administrator_succeeds :
    HandlerSucceeds writeGateway "write_work_order_status" (cancelling orderCode).dump administrator
      none openOrders (buildWriteWorkOrderStatusTool .ascii exactPydantic (siteStore firstMatch))
      (cancelling orderCode).dump cancelledOutput.dump where
  admitted := by
    have hparse := WriteWorkOrderStatusInput.parse_dump exactPydantic (cancelling orderCode)
    have hpermission : Permission.workOrdersChangeStatus ∈ administrator.permissions := by
      decide
    exact (admitted_iff rfl (cancelling orderCode).dump none _ _).mpr
      ⟨rfl, ⟨_, hparse, rfl⟩, hpermission⟩
  rateAllowed := rateAllowed_new _
  approved := approval_buildToolGateway_true writeRegistry _ _ _ _
  returns := by
    change (writeWorkOrderStatus exactPydantic (siteStore firstMatch) (cancelling orderCode).dump
      ⟨otherPlantOrders, 0⟩).2 = _
    unfold writeWorkOrderStatus
    rw [WriteWorkOrderStatusInput.parse_dump]
    rfl

theorem success_never_reported_cancelled :
    ¬ ReportsSuccess (exec (writeGateway.invoke "write_work_order_status"
      (cancelling orderCode).dump administrator none) openOrders).1 :=
  success_never_reported writeGateway .ascii exactPydantic (siteStore firstMatch)
    (fun _ w => (.ok [], w)) "write_work_order_status"
      (cancelling orderCode).dump administrator none
    openOrders _ (Or.inl rfl)
      (cancelling orderCode).dump cancelledOutput.dump administrator_succeeds

/-- The order is cancelled, and the call is reported as failed. -/
theorem cancelled_and_reported_failed :
    (exec (writeGateway.invoke "write_work_order_status" (cancelling orderCode).dump administrator
        none) openOrders).2.world.orders =
      otherPlantOrders.put { otherPlantOrder with status := .cancelled } ∧
    ∃ record, (exec (writeGateway.invoke "write_work_order_status" (cancelling orderCode).dump
        administrator none) openOrders).1 = .ok record ∧ record.status = .failed := by
  have hpermission : Permission.workOrdersChangeStatus ∈ administrator.permissions := by
    decide
  have hget : writeRegistry.get "write_work_order_status" =
      some (buildWriteWorkOrderStatusTool .ascii exactPydantic (siteStore firstMatch)) := rfl
  have hfind : firstMatch.find (some orderCode.text) none otherPlantOrders = some otherPlantOrder :=
    rfl
  exact ⟨exec_cancelling hget hpermission hfind rfl,
    writeWorkOrderStatus_reportsFailure administrator_succeeds⟩

end HotAirBalloon.Operations
