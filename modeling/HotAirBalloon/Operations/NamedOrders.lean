import HotAirBalloon.Operations.StatusChanges
import HotAirBalloon.Operations.WriteScope

/-!
# Naming a work order

The input of the status change names an order by its id, or by its code and its site. The use case
asks its store for a code and nothing else, so the id and the site make no difference over any
store. Over the repository that is wired no call acts on an order at all: it answers with a list,
whose attributes the use case cannot read.
-/

namespace HotAirBalloon.Operations

open Python Gateway Library

/-- The repository at a reading of the clock. -/
def repositoryStore (now : DateTime) : WorkOrderStatusStore OperationsDb := fun op db =>
  match op with
  | .findStatusByCode workOrderCode =>
    (((WorkOrderStatusRepository.findStatusByCode workOrderCode db).map .snapshots).mapError .of,
      db)
  | .applyStatus workOrderId expected new =>
    let (reply, db) := WorkOrderStatusRepository.applyStatus workOrderId expected new now db
    (.ok reply, db)

theorem exec_repositoryStore (op : StoreOp) (now : DateTime) (db : OperationsDb) :
    WorkOrderStatusRepository.exec () op now db = some (repositoryStore now op db) := by
  cases op <;> rfl

/-! ## What is not read -/

section

variable {W : Type} {pydantic : LaxPydantic} (store : WorkOrderStatusStore W)

/-- The id of the input and its site make no difference, whatever the store. -/
theorem writeWorkOrderStatus_names {payload payload' : Payload}
    {data data' : WriteWorkOrderStatusInput}
    (hparse : WriteWorkOrderStatusInput.parse pydantic payload = .ok data)
    (hparse' : WriteWorkOrderStatusInput.parse pydantic payload' = .ok data')
    (hcode : data.workOrderCode = data'.workOrderCode)
    (htarget : data.targetStatus = data'.targetStatus) (hreason : data.reason = data'.reason)
    (w : W) :
    writeWorkOrderStatus pydantic store payload w =
      writeWorkOrderStatus pydantic store payload' w := by
  have hexecute : ChangeWorkOrderStatus.execute data.command =
      ChangeWorkOrderStatus.execute data'.command := by
    unfold ChangeWorkOrderStatus.execute ChangeWorkOrderStatus.change
      ChangeWorkOrderStatus.lacksReason WriteWorkOrderStatusInput.command
    rw [hcode, htarget, hreason]
  have houtput : outputOf data = outputOf data' := by
    funext result
    unfold outputOf
    rw [hcode]
  unfold writeWorkOrderStatus
  rw [hparse, hparse']
  dsimp only
  rw [hexecute, houtput]

end

/-! ## Over the repository -/

/-- A call answers with an output about the order, gives it the target where it reports a success,
and leaves the other orders alone. -/
structure ActsOn (order : WorkOrderRecord) (target : WorkOrderStatus) (db : OperationsDb)
    (run : OperationsDb × Except PyError Payload) : Prop where
  answered : ∃ output : WriteWorkOrderStatusOutput, run.2 = .ok output.dump ∧
    output.workOrderCode = some order.code ∧
    (output.succeeded = true → ∃ row ∈ run.1.workOrders,
      row.id = order.id ∧ row.status = target.value)
  others : ∀ row, row.id ≠ order.id → (row ∈ run.1.workOrders ↔ row ∈ db.workOrders)

/-- The input names the order by its id. -/
def NamedById (data : WriteWorkOrderStatusInput) (order : WorkOrderRecord) : Prop :=
  data.workOrderId = some order.id ∧ data.workOrderCode = none ∧ data.siteCode = none

/-- The input names the order by its code and the code of its site. -/
def NamedByCode (data : WriteWorkOrderStatusInput) (order : WorkOrderRecord) (db : OperationsDb) :
    Prop :=
  data.workOrderId = none ∧ data.workOrderCode.map (·.text) = some order.code ∧
    data.siteCode.map (·.text) = (db.site order.siteId).map (·.code)

/-- The handler over the repository acts alike on an order that is named in either way, and changes
nothing for a code that several orders have. -/
structure NamingEquivalent (pydantic : LaxPydantic) (now : DateTime)
    (db : OperationsDb) : Prop where
  byId : ∀ payload data, WriteWorkOrderStatusInput.parse pydantic payload = .ok data →
    ∀ order ∈ db.workOrders, NamedById data order →
      ActsOn order data.targetStatus db
        (writeWorkOrderStatus pydantic (repositoryStore now) payload db)
  byCode : ∀ payload data, WriteWorkOrderStatusInput.parse pydantic payload = .ok data →
    ∀ order ∈ db.workOrders, NamedByCode data order db →
      ActsOn order data.targetStatus db
        (writeWorkOrderStatus pydantic (repositoryStore now) payload db)
  alike : ∀ payload data payload' data',
    WriteWorkOrderStatusInput.parse pydantic payload = .ok data →
    WriteWorkOrderStatusInput.parse pydantic payload' = .ok data' →
    data.targetStatus = data'.targetStatus → data.reason = data'.reason →
    ∀ order ∈ db.workOrders, NamedById data order → NamedByCode data' order db →
      writeWorkOrderStatus pydantic (repositoryStore now) payload db =
        writeWorkOrderStatus pydantic (repositoryStore now) payload' db
  shared : ∀ payload data, WriteWorkOrderStatusInput.parse pydantic payload = .ok data →
    data.workOrderId = none → data.siteCode = none →
    ∀ order ∈ db.workOrders, ∀ other ∈ db.workOrders, order.id ≠ other.id →
      data.workOrderCode.map (·.text) = some order.code → other.code = order.code →
        (writeWorkOrderStatus pydantic (repositoryStore now) payload db).1 = db

/-- The use case raises over the repository, and no error of the domain. -/
theorem execute_repositoryStore (command : ChangeWorkOrderStatusCommand) (now : DateTime)
    (db : OperationsDb) :
    ∃ e, (ChangeWorkOrderStatus.execute command).interpret (repositoryStore now) db =
      (.error e, db) ∧ isDomainError e.toPyError = false := by
  unfold ChangeWorkOrderStatus.execute
  rw [Prog.interpret_bind, Prog.interpret_perform]
  unfold repositoryStore
  dsimp only
  cases hfound : WorkOrderStatusRepository.findStatusByCode command.workOrderCode db with
  | error e => exact ⟨.of e, rfl, isDomainError_of_mapM hfound⟩
  | ok found =>
    refine ⟨{ kind := "AttributeError", message := "'list' object has no attribute 'status'" }, rfl,
      ?_⟩
    decide

theorem writeWorkOrderStatus_repositoryStore {pydantic : LaxPydantic} {payload : Payload}
    {data : WriteWorkOrderStatusInput}
    (hparse : WriteWorkOrderStatusInput.parse pydantic payload = .ok data) (now : DateTime)
    (db : OperationsDb) :
    ∃ e, writeWorkOrderStatus pydantic (repositoryStore now) payload db = (db, .error e) := by
  obtain ⟨e, hrun, hdomain⟩ := execute_repositoryStore data.command now db
  refine ⟨e.toPyError, ?_⟩
  unfold writeWorkOrderStatus outputOf
  rw [hparse]
  dsimp only
  rw [hrun]
  simp [hdomain, Except.map]

/-- No call acts on an order, so there must be none. -/
theorem NamingEquivalent.workOrders_eq_nil {pydantic : LaxPydantic} {now : DateTime}
    {db : OperationsDb} (h : NamingEquivalent pydantic now db) : db.workOrders = [] := by
  rw [List.eq_nil_iff_forall_not_mem]
  intro order horder
  have hparse :=
    WriteWorkOrderStatusInput.parse_dump pydantic ⟨some order.id, none, .open_, none, none⟩
  obtain ⟨e, hrun⟩ := writeWorkOrderStatus_repositoryStore hparse now db
  have hacts := h.byId _ _ hparse order horder ⟨rfl, rfl, rfl⟩
  obtain ⟨output, hanswer, -⟩ := hacts.answered
  rw [hrun] at hanswer
  cases hanswer

/-- The two ways to name an order are equivalent only where there is no order. -/
theorem namingEquivalent_iff (pydantic : LaxPydantic) (now : DateTime) (db : OperationsDb) :
    NamingEquivalent pydantic now db ↔ db.workOrders = [] := by
  constructor
  · exact NamingEquivalent.workOrders_eq_nil
  · intro hnone
    have hnot : ∀ order, order ∉ db.workOrders := by simp [hnone]
    refine ⟨?_, ?_, ?_, ?_⟩
    · exact fun _ _ _ order horder => absurd horder (hnot order)
    · exact fun _ _ _ order horder => absurd horder (hnot order)
    · exact fun _ _ _ _ _ _ _ _ order horder => absurd horder (hnot order)
    · exact fun _ _ _ _ _ order horder => absurd horder (hnot order)

/-- The one order of a plant, named by its id. -/
theorem not_namingEquivalent : ¬ NamingEquivalent exactPydantic 5 pumpDb := by
  intro h
  have hnone := h.workOrders_eq_nil
  cases hnone

end HotAirBalloon.Operations
