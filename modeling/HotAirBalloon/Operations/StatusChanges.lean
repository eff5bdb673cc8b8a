import HotAirBalloon.Operations.ChangeStatus

/-!
# Runs of the status change

Any number of runs of the use case over one store: the rows are the initial ones with the logged
changes replayed, each change follows the rules from the status the row has at that moment, and
what a run reports is what it changed. Over the wired repository no run succeeds, because a lookup
by code hands back a list.
-/

namespace HotAirBalloon.Operations

open Python Library

variable {ι : Type}

/-! ## Changes in order -/

/-- The rules for a change that a command asks for. -/
structure StatusChange.Allowed (change : StatusChange ι) (command : ChangeWorkOrderStatusCommand) :
    Prop where
  target : change.current = command.targetStatus
  transition : change.previous.isTransitionAllowed change.current
  notTerminal : change.previous.isTerminal = false
  reason : change.current.requiresReason → ∃ reason, command.reason = some reason ∧ reason ≠ ""

/-- One change of a row that has the status it is changed from. -/
def StatusChange.replay (orders : Table WorkOrderStatusSnapshot.id) (change : StatusChange ι) :
    Option (Table WorkOrderStatusSnapshot.id) :=
  match orders.find? change.workOrderId with
  | some order =>
    if order.status = change.previous then some (orders.put { order with status := change.current })
    else none
  | none => none

/-- The rows after some changes, one at a time. -/
def replay (changes : List (StatusChange ι)) (orders : Table WorkOrderStatusSnapshot.id) :
    Option (Table WorkOrderStatusSnapshot.id) :=
  changes.foldlM StatusChange.replay orders

theorem replay_append_singleton {changes : List (StatusChange ι)}
    {orders orders' : Table WorkOrderStatusSnapshot.id} (h : replay changes orders = some orders')
    (change : StatusChange ι) : replay (changes ++ [change]) orders = change.replay orders' := by
  unfold replay at h ⊢
  rw [List.foldlM_append, h]
  change (List.foldlM StatusChange.replay orders' [change]) = _
  rw [List.foldlM_cons]
  cases change.replay orders' <;> rfl

/-- The changes that a call has made. -/
def StoreWorld.changesOf [DecidableEq ι] (w : StoreWorld ι) (i : ι) : List (StatusChange ι) :=
  w.changes.filter (fun change => change.caller = i)

/-! ## What a call of the store does -/

section

variable {choice : StoreChoice} {w w' : StoreWorld ι}

theorem exec_findStatusByCode (i : ι) {code : Option String}
    {reply : Except StatusError LookupResult}
    (h : storeExec i (.findStatusByCode code) choice w = some (reply, w')) :
    w' = w ∧ ∀ found, reply = .ok found →
      found = .none ∨ ∃ order ∈ w.orders, some order.code = code ∧ found = .snapshot order := by
  cases choice with
  | fails e =>
    cases h
    exact ⟨rfl, nofun⟩
  | answers pick now =>
    obtain ⟨found, hfound, heq⟩ := Option.map_eq_some_iff.mp h
    cases heq
    refine ⟨rfl, ?_⟩
    rintro _ ⟨⟩
    unfold findOrder at hfound
    split at hfound
    · cases hfound
      exact .inl rfl
    · rename_i order rest hmatches
      obtain ⟨picked, hpick, rfl⟩ := Option.map_eq_some_iff.mp hfound
      have hmem : picked ∈ w.orders.rows.filter (fun order => some order.code = code) := by
        rw [hmatches]
        exact List.mem_of_getElem? hpick
      obtain ⟨hrow, hcode⟩ := List.mem_filter.mp hmem
      exact .inr ⟨picked, hrow, of_decide_eq_true hcode, rfl⟩

/-- An update changes the row whose status it expects, or nothing. -/
theorem exec_applyStatus {i : ι} {id : Uuid} {expected new : WorkOrderStatus}
    {reply : Except StatusError (Option DateTime)}
    (h : storeExec i (.applyStatus id expected new) choice w = some (reply, w')) :
    (w' = w ∧ ∀ now, reply ≠ .ok (some now)) ∨
    ∃ order ∈ w.orders, order.id = id ∧ order.status = expected ∧
      w' = ⟨w.orders.put { order with status := new }, w.changes ++ [⟨i, id, expected, new⟩]⟩ ∧
      ∃ now, reply = .ok (some now) := by
  cases choice with
  | fails e =>
    cases h
    exact .inl ⟨rfl, nofun⟩
  | answers pick now =>
    unfold storeExec compareAndSet at h
    dsimp only at h
    split at h
    · rename_i order hfind
      obtain ⟨hmem, hid⟩ := Table.find?_eq_some_iff.mp hfind
      split at h
      · rename_i hstatus
        cases h
        exact .inr ⟨order, hmem, hid, hstatus, rfl, now, rfl⟩
      · cases h
        exact .inl ⟨rfl, nofun⟩
    · cases h
      exact .inl ⟨rfl, nofun⟩

end

/-! ## The invariant -/

structure StatusInv (orders : Table WorkOrderStatusSnapshot.id)
    (command : ι → ChangeWorkOrderStatusCommand) (w : StoreWorld ι) : Prop where
  replayed : replay w.changes orders = some w.orders
  allowed : ∀ change ∈ w.changes, change.Allowed (command change.caller)
  codes : ∀ order ∈ w.orders, ∃ order₀ ∈ orders, order₀.id = order.id ∧ order₀.code = order.code

/-- A step only logs changes of its own. -/
def StatusGuar (i : ι) (w w' : StoreWorld ι) : Prop :=
  ∃ new, w'.changes = w.changes ++ new ∧ ∀ change ∈ new, change.caller = i

def statusRely (orders : Table WorkOrderStatusSnapshot.id)
    (command : ι → ChangeWorkOrderStatusCommand) :
    Rely ι StatusError StoreOp StoreOp.Reply StoreChoice (StoreWorld ι) where
  exec := storeExec
  cond := always
  inv := StatusInv orders command
  guar := StatusGuar

section

variable [DecidableEq ι] {orders : Table WorkOrderStatusSnapshot.id}
  {command : ι → ChangeWorkOrderStatusCommand} {i : ι} {w w' : StoreWorld ι}

omit [DecidableEq ι] in
theorem StatusGuar.refl : StatusGuar i w w := ⟨[], by simp, by simp⟩

theorem stable_changesOf (changes : List (StatusChange ι)) :
    Stable (statusRely orders command) i (fun w => w.changesOf i = changes) := by
  rintro w w' j hj _ _ ⟨new, hnew, hown⟩ hchanges
  have hnone : new.filter (fun change => change.caller = i) = [] := by
    rw [List.filter_eq_nil_iff]
    intro change hchange
    rw [hown change hchange]
    simpa using hj
  unfold StoreWorld.changesOf at hchanges ⊢
  rw [hnew, List.filter_append, hnone, List.append_nil]
  exact hchanges

omit [DecidableEq ι] in
theorem StatusInv.update (h : StatusInv orders command w) {order : WorkOrderStatusSnapshot}
    {new : WorkOrderStatus} (horder : order ∈ w.orders)
    (hallowed : (StatusChange.mk i order.id order.status new).Allowed (command i)) :
    StatusInv orders command
      ⟨w.orders.put { order with status := new },
        w.changes ++ [⟨i, order.id, order.status, new⟩]⟩ := by
  constructor
  · rw [replay_append_singleton h.replayed]
    unfold StatusChange.replay
    dsimp only
    rw [Table.find?_eq_some_iff.mpr ⟨horder, rfl⟩]
    dsimp only
    rw [if_pos rfl]
  · intro change hchange
    rcases List.mem_append.mp hchange with hold | hnew
    · exact h.allowed change hold
    · cases List.mem_singleton.mp hnew
      exact hallowed
  · intro order' horder'
    rcases Table.mem_put.mp horder' with rfl | ⟨hold, -⟩
    · exact h.codes order horder
    · exact h.codes order' hold

/-! ## The outline of a run -/

/-- What a finished run has done: it reports its only change, or it has made none. -/
def Reported (orders : Table WorkOrderStatusSnapshot.id)
    (command : ι → ChangeWorkOrderStatusCommand)
    (i : ι) (r : Except StatusError ChangeWorkOrderStatusResult) (w : StoreWorld ι) : Prop :=
  match r with
  | .error _ => w.changesOf i = []
  | .ok result => ∃ order ∈ orders, order.code = result.workOrderCode ∧
      (command i).workOrderCode = some result.workOrderCode ∧
      result.currentStatus = (command i).targetStatus ∧
      if result.changed then
        w.changesOf i = [⟨i, order.id, result.previousStatus, result.currentStatus⟩]
      else w.changesOf i = [] ∧ result.previousStatus = result.currentStatus

/-- What the update of a run has done: it reports its only change, or it has matched no row. -/
def Updated (i : ι) (id : Uuid) (expected new : WorkOrderStatus)
    (r : Except StatusError (Option DateTime)) (w : StoreWorld ι) : Prop :=
  match r with
  | .ok (some _) => w.changesOf i = [⟨i, id, expected, new⟩]
  | _ => w.changesOf i = []

theorem stable_updated (id : Uuid) (expected new : WorkOrderStatus)
    (r : Except StatusError (Option DateTime)) :
    Stable (statusRely orders command) i (Updated i id expected new r) := by
  rcases r with e | _ | now
  · exact stable_changesOf _
  · exact stable_changesOf _
  · exact stable_changesOf _

theorem outline_change (snapshot : WorkOrderStatusSnapshot)
    (hcode : (command i).workOrderCode = some snapshot.code)
    (hknown : ∃ order ∈ orders, order.id = snapshot.id ∧ order.code = snapshot.code) :
    Outline (statusRely orders command) i (fun w => w.changesOf i = [])
      (ChangeWorkOrderStatus.change (command i) snapshot) (Reported orders command i) := by
  obtain ⟨order, horder, hid, hordercode⟩ := hknown
  unfold ChangeWorkOrderStatus.change
  dsimp only
  split
  · rename_i heq
    refine Outline.pure ?_
    intro w _ hnil
    exact ⟨order, horder, hordercode, hcode, heq, hnil, rfl⟩
  rename_i hdiffers
  split
  · exact Outline.raise (fun _ _ hnil => hnil)
  rename_i hterminal
  split
  · exact Outline.raise (fun _ _ hnil => hnil)
  rename_i htransition
  split
  · exact Outline.raise (fun _ _ hnil => hnil)
  rename_i hreason
  have hallowed : (StatusChange.mk i snapshot.id snapshot.status (command i).targetStatus).Allowed
      (command i) := by
    constructor
    · rfl
    · simpa using htransition
    · simpa using hterminal
    · intro hrequires
      have hlacks : ChangeWorkOrderStatus.lacksReason (command i) = false := by
        simpa [hrequires] using hreason
      unfold ChangeWorkOrderStatus.lacksReason at hlacks
      cases hgiven : (command i).reason with
      | none =>
        rw [hgiven] at hlacks
        cases hlacks
      | some reason =>
        rw [hgiven] at hlacks
        exact ⟨reason, rfl, by simpa using hlacks⟩
  have hupdate : Outline (statusRely orders command) i (fun w => w.changesOf i = [])
      (Prog.perform (StoreOp.applyStatus snapshot.id snapshot.status (command i).targetStatus))
      (Updated i snapshot.id snapshot.status (command i).targetStatus) := by
    refine Outline.perform ?_ ?_
    · exact stable_updated _ _ _
    · intro w choice r w' hinv hnil _ hexec
      rcases exec_applyStatus hexec with ⟨rfl, hreply⟩ | ⟨row, hrow, hrowid, hstatus, rfl, now, rfl⟩
      · refine ⟨hinv, .refl, ?_⟩
        rcases r with e | _ | now
        · exact hnil
        · exact hnil
        · exact absurd rfl (hreply now)
      · rw [← hrowid, ← hstatus] at hallowed ⊢
        refine ⟨hinv.update hrow hallowed, ⟨_, rfl, by simp⟩, ?_⟩
        change List.filter _ (w.changes ++ _) = _
        rw [List.filter_append]
        change w.changesOf i ++ _ = _
        rw [hnil]
        simp
  refine Outline.bind hupdate (fun updatedAt => ?_) (fun _ _ _ hnil => hnil)
  cases updatedAt with
  | none => exact Outline.raise (fun _ _ hnil => hnil)
  | some now =>
    refine Outline.pure ?_
    intro w _ hchanges
    refine ⟨order, horder, hordercode, hcode, rfl, ?_⟩
    rw [if_pos rfl, hid]
    exact hchanges

theorem outline_execute :
    Outline (statusRely orders command) i (fun w => w.changesOf i = [])
      (ChangeWorkOrderStatus.execute (command i)) (Reported orders command i) := by
  have hfind : Outline (statusRely orders command) i (fun w => w.changesOf i = [])
      (Prog.perform (StoreOp.findStatusByCode (command i).workOrderCode))
      (fun r w => w.changesOf i = [] ∧ ∀ found, r = .ok found → found = .none ∨
        ∃ snapshot, found = .snapshot snapshot ∧ (command i).workOrderCode = some snapshot.code ∧
          ∃ order ∈ orders, order.id = snapshot.id ∧ order.code = snapshot.code) := by
    refine Outline.perform (fun r => (stable_changesOf _).and (stable_const _)) ?_
    intro w choice r w' hinv hnil _ hexec
    obtain ⟨rfl, hreply⟩ := exec_findStatusByCode i hexec
    refine ⟨hinv, .refl, hnil, ?_⟩
    intro found heq
    rcases hreply found heq with hnone | ⟨snapshot, hsnapshot, hcode, hfound⟩
    · exact .inl hnone
    · exact .inr ⟨snapshot, hfound, hcode.symm, hinv.codes snapshot hsnapshot⟩
  refine Outline.bind hfind (fun found => ?_) (fun _ _ _ h => h.1)
  cases found with
  | none => exact Outline.raise (fun _ _ h => h.1)
  | snapshots found =>
    refine Outline.ofExcept ?_
    rintro w _ ⟨-, hfound⟩
    rcases hfound _ rfl with h | ⟨snapshot, h, -⟩ <;> cases h
  | snapshot snapshot =>
    refine Outline.assume ?_ (fun known : (command i).workOrderCode = some snapshot.code ∧
      ∃ order ∈ orders, order.id = snapshot.id ∧ order.code = snapshot.code => ?_)
    · rintro w _ ⟨-, hfound⟩
      rcases hfound _ rfl with h | ⟨snapshot', h, hknown⟩
      · cases h
      · cases h
        exact hknown
    · exact (outline_change snapshot known.1 known.2).pre (fun _ _ h => h.1)

end

/-! ## Every interleaving -/

section

variable [DecidableEq ι] {orders : Table WorkOrderStatusSnapshot.id}
  {command : ι → ChangeWorkOrderStatusCommand}

/-- The runs of the use case on some commands, none of which has started. -/
def StoreWorld.start (orders : Table WorkOrderStatusSnapshot.id)
    (command : ι → ChangeWorkOrderStatusCommand) :
    Config ι StatusError StoreOp StoreOp.Reply (StoreWorld ι) ChangeWorkOrderStatusResult :=
  ⟨⟨orders, []⟩, fun i => ChangeWorkOrderStatus.execute (command i)⟩

/-- A step that changes a row changes its status alone, by an allowed transition from the status
that it has at that moment, and logs it. -/
def ChangesOneRow (command : ι → ChangeWorkOrderStatusCommand) (i : ι)
    (w w' : StoreWorld ι) : Prop :=
  ∃ order ∈ w.orders, ∃ change : StatusChange ι, change.caller = i ∧ change.workOrderId = order.id ∧
    change.previous = order.status ∧ change.Allowed (command i) ∧
    w'.orders = w.orders.put { order with status := change.current } ∧
    w'.changes = w.changes ++ [change]

/-- Where a run of several status changes stands. -/
structure StatusChangesLinearizable (orders : Table WorkOrderStatusSnapshot.id)
    (command : ι → ChangeWorkOrderStatusCommand)
    (c : Config ι StatusError StoreOp StoreOp.Reply (StoreWorld ι) ChangeWorkOrderStatusResult) :
    Prop where
  replayed : replay c.world.changes orders = some c.world.orders
  allowed : ∀ change ∈ c.world.changes, change.Allowed (command change.caller)
  steps : ∀ i c', Step storeExec always i c c' →
    c'.world = c.world ∨ ChangesOneRow command i c.world c'.world
  results : ∀ i r, c.programs i = .done r → Reported orders command i r c.world

theorem covered_execute (orders : Table WorkOrderStatusSnapshot.id)
    (command : ι → ChangeWorkOrderStatusCommand) :
    Covered (statusRely orders command) (Reported orders command)
      (StoreWorld.start orders command) where
  inv := ⟨rfl, nofun, fun order horder => ⟨order, horder, rfl, rfl⟩⟩
  outline _ := ⟨_, stable_changesOf [], rfl, outline_execute⟩

omit [DecidableEq ι] in
/-- The last logged change is the change of the step. -/
theorem changesOneRow_of_inv {i : ι} {w w' : StoreWorld ι} {op : StoreOp} {choice : StoreChoice}
    {reply : Except StatusError op.Reply} (hinv' : StatusInv orders command w')
    (hexec : storeExec i op choice w = some (reply, w')) :
    w' = w ∨ ChangesOneRow command i w w' := by
  cases op with
  | findStatusByCode code => exact .inl (exec_findStatusByCode i hexec).1
  | applyStatus id expected new =>
    rcases exec_applyStatus hexec with ⟨rfl, -⟩ | ⟨order, horder, rfl, rfl, rfl, -⟩
    · exact .inl rfl
    · refine .inr ⟨order, horder, ⟨i, order.id, order.status, new⟩, rfl, rfl, rfl, ?_, rfl, rfl⟩
      exact hinv'.allowed _ (List.mem_append_right _ List.mem_cons_self)

theorem execute_linearizable (orders : Table WorkOrderStatusSnapshot.id)
    (command : ι → ChangeWorkOrderStatusCommand)
    (c : Config ι StatusError StoreOp StoreOp.Reply (StoreWorld ι) ChangeWorkOrderStatusResult)
    (hrun : Steps storeExec always (StoreWorld.start orders command) c) :
    StatusChangesLinearizable orders command c := by
  have hcovered : Covered (statusRely orders command) (Reported orders command) c :=
    (covered_execute orders command).steps hrun
  constructor
  · exact hcovered.inv.replayed
  · exact hcovered.inv.allowed
  · intro i c' hstep
    have hinv' : StatusInv orders command c'.world := (hcovered.step hstep).1.inv
    obtain @⟨op, next, choice, reply, world, -, -, hexec⟩ := hstep
    exact changesOneRow_of_inv hinv' hexec
  · intro i r hdone
    exact hcovered.result hdone

end

/-! ### Two calls race for one order -/

def racingOrders : Table WorkOrderStatusSnapshot.id :=
  Table.empty.put ⟨.ofNat 1, "WO-1001", .open_⟩

def racingCommand : Bool → ChangeWorkOrderStatusCommand
  | false => { targetStatus := .inProgress, workOrderCode := some "WO-1001" }
  | true => {
      targetStatus := .cancelled
      workOrderCode := some "WO-1001"
      reason := some "duplicate order" }

/-- Both calls look the order up before either updates it. -/
def racingRun : Option
    (Config Bool StatusError StoreOp StoreOp.Reply (StoreWorld Bool) ChangeWorkOrderStatusResult) :=
  runSchedule storeExec always
    [(false, .answers 0 5), (true, .answers 0 6), (true, .answers 0 7), (false, .answers 0 8)]
    (StoreWorld.start racingOrders racingCommand)

theorem racingRun_isSome : racingRun.isSome := by decide

theorem execute_linearizable_race :
    StatusChangesLinearizable racingOrders racingCommand (racingRun.get racingRun_isSome) ∧
    (racingRun.get racingRun_isSome).world.changes = [⟨true, .ofNat 1, .open_, .cancelled⟩] ∧
    ((racingRun.get racingRun_isSome).programs false).error? =
      some (workOrderStatusConflictError "WO-1001" .open_) := by
  refine ⟨execute_linearizable _ _ _ ?_, by decide, by decide⟩
  exact steps_of_runSchedule (Option.some_get racingRun_isSome).symm

/-! ## Over the repository -/

/-- The order that a command names. -/
def ChangeWorkOrderStatusCommand.Names (command : ChangeWorkOrderStatusCommand)
    (row : WorkOrderRecord) : Prop :=
  match command.workOrderCode with
  | some code => row.code = code
  | none => command.workOrderId = some row.id

/-- A result for an order that the command names, or a business error. -/
def AnswersOrRejects (command : ChangeWorkOrderStatusCommand) (db : OperationsDb)
    (r : Except StatusError ChangeWorkOrderStatusResult) : Prop :=
  match r with
  | .ok result => ∃ row ∈ db.workOrders, command.Names row ∧ result.workOrderCode = row.code
  | .error e => isDomainError e.toPyError

theorem isDomainError_of_snapshot {row : WorkOrderRecord} {e : PyError}
    (h : WorkOrderStatusRepository.snapshot row = .error e) : isDomainError e = false := by
  unfold WorkOrderStatusRepository.snapshot WorkOrderStatusRepository.statusOf at h
  split at h
  · cases h
  · cases h
    simp [isDomainError, PyError.valueError]

theorem isDomainError_of_mapM {rows : List WorkOrderRecord} {e : PyError}
    (h : rows.mapM WorkOrderStatusRepository.snapshot = .error e) : isDomainError e = false := by
  induction rows with
  | nil => cases h
  | cons row rest ih =>
    rw [List.mapM_cons] at h
    cases hfirst : WorkOrderStatusRepository.snapshot row with
    | error e' =>
      rw [hfirst] at h
      cases h
      exact isDomainError_of_snapshot hfirst
    | ok first =>
      rw [hfirst] at h
      cases hrest : rest.mapM WorkOrderStatusRepository.snapshot with
      | error e' =>
        rw [hrest] at h
        cases h
        exact ih hrest
      | ok others =>
        rw [hrest] at h
        cases h

/-- The lookup by code hands back a list, and its attributes cannot be read. -/
theorem execute_fails (command : ChangeWorkOrderStatusCommand) (db : OperationsDb)
    (now : DateTime) :
    ∃ e, (ChangeWorkOrderStatus.execute command).run WorkOrderStatusRepository.exec () now db =
      some (.error e, db) ∧ ¬ AnswersOrRejects command db (.error e) := by
  cases hfound : WorkOrderStatusRepository.findStatusByCode command.workOrderCode db with
  | error e =>
    refine ⟨.of e, ?_, ?_⟩
    · change (some (((WorkOrderStatusRepository.findStatusByCode command.workOrderCode db).map
        LookupResult.snapshots).mapError StatusError.of, db)).bind _ = _
      rw [hfound]
      rfl
    · change ¬ isDomainError e = true
      simp [isDomainError_of_mapM hfound]
  | ok found =>
    refine ⟨{ kind := "AttributeError", message := "'list' object has no attribute 'status'" }, ?_,
      ?_⟩
    · change (some (((WorkOrderStatusRepository.findStatusByCode command.workOrderCode db).map
        LookupResult.snapshots).mapError StatusError.of, db)).bind _ = _
      rw [hfound]
      rfl
    · change ¬ isDomainError ⟨"AttributeError", _, true⟩ = true
      decide

/-- One site with one asset and one open order. -/
def pumpDb : OperationsDb where
  sites := [⟨.ofNat 1, "HCM"⟩]
  assets := [⟨.ofNat 2, .ofNat 1, "P-100", "Pump", "pump", "high", "running"⟩]
  workOrders := [⟨.ofNat 3, .ofNat 1, .ofNat 2, "WO-1001", "Replace seal", "", "medium", "open",
    "maintenance", none, 0, 0⟩]
  spareParts := []
  collation a b := decide (a ≤ b)
  siteIds_nodup := by decide
  assetIds_nodup := by decide
  assetSites := by decide
  workOrderSites := by decide
  workOrderAssets := by decide
  sparePartSites := by decide

theorem execute_fails_pump :
    (ChangeWorkOrderStatus.execute
      { targetStatus := .inProgress, workOrderCode := some "WO-1001" }).run
        WorkOrderStatusRepository.exec () 5 pumpDb =
      some (.error
        { kind := "AttributeError", message := "'list' object has no attribute 'status'" },
        pumpDb) ∧
    ¬ AnswersOrRejects { targetStatus := .inProgress, workOrderCode := some "WO-1001" } pumpDb
      (.error
        { kind := "AttributeError", message := "'list' object has no attribute 'status'" }) := by
  refine ⟨rfl, ?_⟩
  unfold AnswersOrRejects
  decide

end HotAirBalloon.Operations
