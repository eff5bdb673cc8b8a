import HotAirBalloon.Gateway.RateLimit
import HotAirBalloon.Gateway.Wiring
import HotAirBalloon.Operations.WriteWorkOrderStatus

/-!
# The site scope of the status change

Work orders of several sites, and a store whose lookup by code honours a site filter. The use case
never passes a site, and the tool has no site field, so the gateway asks for the permission on no
site in particular. Who has that permission can change every order that the lookup finds by its code
alone.
-/

namespace HotAirBalloon.Operations

open Python Gateway User Library

/-! ## A store with sites -/

structure SiteOrder where
  id : Uuid
  siteCode : String
  code : String
  status : WorkOrderStatus

/-- The orders, and the time of an update. -/
structure SiteOrders where
  orders : Table SiteOrder.id
  now : DateTime

/-- The order has the code, and the site where one is asked for. -/
def SiteOrder.Matches (order : SiteOrder) (workOrderCode siteCode : Option String) : Prop :=
  some order.code = workOrderCode ∧ ∀ site, siteCode = some site → order.siteCode = site

/-- `find_status_by_code(work_order_code, site_code=…)`: an order that matches, if there is one. -/
structure SiteLookup where
  find : Option String → Option String → Table SiteOrder.id → Option SiteOrder
  found : ∀ workOrderCode siteCode orders order, find workOrderCode siteCode orders = some order →
    order ∈ orders ∧ order.Matches workOrderCode siteCode
  missing : ∀ workOrderCode siteCode orders, find workOrderCode siteCode orders = none →
    ∀ order ∈ orders, ¬ order.Matches workOrderCode siteCode

def SiteOrder.snapshot (order : SiteOrder) : WorkOrderStatusSnapshot :=
  ⟨order.id, order.code, order.status⟩

/-- `UPDATE … WHERE id = … AND status = …`. -/
def SiteOrders.applyStatus (w : SiteOrders) (workOrderId : Uuid) (expected new : WorkOrderStatus) :
    Option DateTime × SiteOrders :=
  match w.orders.find? workOrderId with
  | some order =>
    if order.status = expected then
      (some w.now, { w with orders := w.orders.put { order with status := new } })
    else (none, w)
  | none => (none, w)

/-- The store: the use case asks for a code and no site. -/
def siteStore (lookup : SiteLookup) : WorkOrderStatusStore SiteOrders := fun op w =>
  match op with
  | .findStatusByCode workOrderCode =>
    (.ok (match lookup.find workOrderCode none w.orders with
      | some order => .snapshot order.snapshot
      | none => .none), w)
  | .applyStatus workOrderId expected new =>
    let (reply, w) := w.applyStatus workOrderId expected new
    (.ok reply, w)

/-! ## What a run of the use case changes -/

/-- What the use case demands of a change to an order. -/
structure Changeable (command : ChangeWorkOrderStatusCommand) (order : SiteOrder) : Prop where
  differs : order.status ≠ command.targetStatus
  notTerminal : order.status.isTerminal = false
  allowed : order.status.isTransitionAllowed command.targetStatus = true
  reason : (command.targetStatus.requiresReason &&
    ChangeWorkOrderStatus.lacksReason command) = false

variable {lookup : SiteLookup} {command : ChangeWorkOrderStatusCommand} {w : SiteOrders}

theorem interpret_execute_of_none (hfind : lookup.find command.workOrderCode none w.orders = none) :
    (ChangeWorkOrderStatus.execute command).interpret (siteStore lookup) w =
      (.error (workOrderNotFoundError command.workOrderCode), w) := by
  have hreply : siteStore lookup (.findStatusByCode command.workOrderCode) w =
      (.ok LookupResult.none, w) := by
    unfold siteStore
    simp [hfind]
  unfold ChangeWorkOrderStatus.execute
  rw [Prog.interpret_bind, Prog.interpret_perform, hreply]
  rfl

theorem interpret_execute_of_some {order : SiteOrder}
    (hfind : lookup.find command.workOrderCode none w.orders = some order) :
    (ChangeWorkOrderStatus.execute command).interpret (siteStore lookup) w =
      (ChangeWorkOrderStatus.change command order.snapshot).interpret (siteStore lookup) w := by
  have hreply : siteStore lookup (.findStatusByCode command.workOrderCode) w =
      (.ok (LookupResult.snapshot order.snapshot), w) := by
    unfold siteStore
    simp [hfind]
  unfold ChangeWorkOrderStatus.execute
  rw [Prog.interpret_bind, Prog.interpret_perform, hreply]
  rfl

/-- Without a changeable order under the code nothing changes. -/
theorem interpret_execute_of_not_changeable
    (h : ∀ order, lookup.find command.workOrderCode none w.orders = some order →
      ¬ Changeable command order) :
    ((ChangeWorkOrderStatus.execute command).interpret (siteStore lookup) w).2 = w := by
  cases hfind : lookup.find command.workOrderCode none w.orders with
  | none => rw [interpret_execute_of_none hfind]
  | some order =>
    have hnot := h order hfind
    rw [interpret_execute_of_some hfind]
    unfold ChangeWorkOrderStatus.change
    dsimp only [SiteOrder.snapshot]
    split_ifs with hsame hterminal hallowed hreason
    · rfl
    · rfl
    · rfl
    · rfl
    · refine absurd ⟨hsame, ?_, ?_, ?_⟩ hnot
      · simpa using hterminal
      · simpa using hallowed
      · simpa using hreason

/-- A changeable order under the code is changed. -/
theorem interpret_execute_of_changeable {order : SiteOrder}
    (hfind : lookup.find command.workOrderCode none w.orders = some order)
    (h : Changeable command order) :
    ((ChangeWorkOrderStatus.execute command).interpret (siteStore lookup) w).2 =
      { w with orders := w.orders.put { order with status := command.targetStatus } } := by
  obtain ⟨hmem, -⟩ := lookup.found _ _ _ _ hfind
  have hrow : w.orders.find? order.id = some order := Table.find?_eq_some_iff.mpr ⟨hmem, rfl⟩
  have hreply : siteStore lookup (.applyStatus order.id order.status command.targetStatus) w =
      (.ok (some w.now),
        { w with orders := w.orders.put { order with status := command.targetStatus } }) := by
    unfold siteStore SiteOrders.applyStatus
    simp [hrow]
  rw [interpret_execute_of_some hfind]
  unfold ChangeWorkOrderStatus.change
  dsimp only [SiteOrder.snapshot]
  rw [if_neg h.differs, if_neg (by simp [h.notTerminal]), if_neg (by simp [h.allowed]),
    if_neg (by simp [h.reason]), Prog.interpret_bind, Prog.interpret_perform, hreply]
  rfl

/-! ## Who may change an order -/

/-- The order that a code which the input model accepts finds. -/
def Reachable (lookup : SiteLookup) (orders : Table SiteOrder.id) (order : SiteOrder) : Prop :=
  ∃ workOrderCode : TrimmedText 1 100,
    lookup.find (some workOrderCode.text) none orders = some order

/-- No call of the tool by the actor changes the status of an order of another site. -/
def ChangesInScope (registry : ToolRegistry SiteOrders) (ctx : AuthorizationContext)
    (orders : Table SiteOrder.id) : Prop :=
  ∀ payload conversationId (s : GatewayState SiteOrders FixedWindowRateLimiter),
    s.world.orders = orders →
    ∀ order ∈ orders, ∀ order' ∈ (exec ((buildToolGateway registry true
        FixedWindowRateLimiter.tryConsume).invoke "write_work_order_status" payload ctx
        conversationId) s).2.world.orders,
      order'.id = order.id → order'.status ≠ order.status →
        ctx.globalScope = true ∨ order.siteCode ∈ ctx.siteCodes

section

variable {py : Interpreter} {pydantic : LaxPydantic} {lookup : SiteLookup}
  {registry : ToolRegistry SiteOrders} {ctx : AuthorizationContext}

theorem handler_world {data : WriteWorkOrderStatusInput} {payload : Payload}
    (hparse : WriteWorkOrderStatusInput.parse pydantic payload = .ok data) (w : SiteOrders) :
    (writeWorkOrderStatus pydantic (siteStore lookup) payload w).1 =
      ((ChangeWorkOrderStatus.execute data.command).interpret (siteStore lookup) w).2 := by
  unfold writeWorkOrderStatus
  rw [hparse]

/-- An input model that is a parser followed by a dump. -/
theorem validateStrictInput_inputModel {I : Type} {name : String}
    {parse : Payload → Except PyError I} {dump : I → Payload} {payload validated : Payload} :
    validateStrictInput (inputModel name parse dump) payload = .ok validated ↔
      ∃ data, parse payload = .ok data ∧ dump data = validated := by
  change (parse payload).map dump = .ok validated ↔ _
  cases parse payload with
  | error e => simp [Except.map]
  | ok data => simp [Except.map]

/-- A call that is let through: its input, and the actor's permission. -/
theorem admitted_iff
    (hget : registry.get "write_work_order_status" =
      some (buildWriteWorkOrderStatusTool py pydantic (siteStore lookup)))
    (payload : Payload) (conversationId : Option Uuid)
    (registration : AssistantToolRegistration SiteOrders) (validated : Payload) :
    admission (buildToolGateway registry true FixedWindowRateLimiter.tryConsume)
        "write_work_order_status" payload ctx conversationId = .ok (registration, validated) ↔
      registration = buildWriteWorkOrderStatusTool py pydantic (siteStore lookup) ∧
      (∃ data, WriteWorkOrderStatusInput.parse pydantic payload = .ok data ∧
        data.dump = validated) ∧
      Permission.workOrdersChangeStatus ∈ ctx.permissions := by
  have htool : ∀ permission, defaultPermissionChecker ctx permission none = true ↔
      permission ∈ ctx.permissions := by
    intro permission
    unfold defaultPermissionChecker AuthorizationContext.can
    by_cases hpermission : permission ∈ ctx.permissions <;> simp [hpermission]
  rw [admission_eq_ok_iff]
  constructor
  · rintro ⟨hget', scopedPayload, siteCode, hscope, hvalid, hsite, hperm⟩
    obtain rfl : _ = registration := Option.some.inj (hget.symm.trans hget')
    -- the tool has no site field: the payload stays as it is, and there is no site
    cases hscope
    cases hsite
    exact ⟨rfl, validateStrictInput_inputModel.mp hvalid, (htool _).mp hperm⟩
  · rintro ⟨rfl, hdata, hpermission⟩
    exact ⟨hget, payload, none, rfl, validateStrictInput_inputModel.mpr hdata, rfl,
      (htool _).mpr hpermission⟩

/-- What an admitted call does to the orders: what its use case does, or nothing. -/
theorem world_write
    (hget : registry.get "write_work_order_status" =
      some (buildWriteWorkOrderStatusTool py pydantic (siteStore lookup)))
    (payload : Payload) (conversationId : Option Uuid)
    (s : GatewayState SiteOrders FixedWindowRateLimiter) :
    (exec ((buildToolGateway registry true FixedWindowRateLimiter.tryConsume).invoke
        "write_work_order_status" payload ctx conversationId) s).2.world = s.world ∨
      ∃ data, WriteWorkOrderStatusInput.parse pydantic payload = .ok data ∧
        Permission.workOrdersChangeStatus ∈ ctx.permissions ∧
        (exec ((buildToolGateway registry true FixedWindowRateLimiter.tryConsume).invoke
          "write_work_order_status" payload ctx conversationId) s).2.world =
          ((ChangeWorkOrderStatus.execute data.command).interpret
            (siteStore lookup) s.world).2 := by
  rcases world_invoke s with hsame | ⟨registration, validated, hadmission, hworld⟩
  · exact Or.inl hsame
  · obtain ⟨rfl, ⟨data, hparse, rfl⟩, hpermission⟩ :=
      (admitted_iff hget payload conversationId registration validated).mp hadmission
    refine Or.inr ⟨data, hparse, hpermission, ?_⟩
    rw [hworld, (exec_executeApproved_once rfl
      (approval_buildToolGateway_true registry _ _ _ _) conversationId _).1]
    exact handler_world (WriteWorkOrderStatusInput.parse_dump pydantic data) s.world

/-- The input that cancels the order with a code. -/
def cancelling (workOrderCode : TrimmedText 1 100) : WriteWorkOrderStatusInput where
  workOrderId := none
  workOrderCode := some workOrderCode
  targetStatus := .cancelled
  siteCode := none
  reason := some ⟨"duplicate", by decide, by decide, by decide⟩

theorem changeable_cancelling {order : SiteOrder} (h : order.status.isTerminal = false)
    (workOrderCode : TrimmedText 1 100) : Changeable (cancelling workOrderCode).command order where
  differs := by
    intro heq
    rw [heq] at h
    cases h
  notTerminal := h
  allowed := by
    change order.status.isTransitionAllowed .cancelled = true
    revert h
    cases order.status <;> decide
  reason := by
    simp [cancelling, WriteWorkOrderStatusInput.command, ChangeWorkOrderStatus.lacksReason]

theorem eq_of_id_eq {orders : Table SiteOrder.id} {order order' : SiteOrder}
    (horder : order ∈ orders) (horder' : order' ∈ orders) (hid : order'.id = order.id) :
    order' = order :=
  Table.eq_of_key_eq horder' horder hid

/-- A call that the limiter allows runs the use case. -/
theorem world_of_allowed
    (hget : registry.get "write_work_order_status" =
      some (buildWriteWorkOrderStatusTool py pydantic (siteStore lookup)))
    (hpermission : Permission.workOrdersChangeStatus ∈ ctx.permissions)
    {payload : Payload} {data : WriteWorkOrderStatusInput}
    (hparse : WriteWorkOrderStatusInput.parse pydantic payload = .ok data)
    (conversationId : Option Uuid) {s : GatewayState SiteOrders FixedWindowRateLimiter}
    (hrate : RateAllowed (buildToolGateway registry true FixedWindowRateLimiter.tryConsume)
      (buildWriteWorkOrderStatusTool py pydantic (siteStore lookup)).definition ctx.userId.str
      s.limiter) :
    (exec ((buildToolGateway registry true FixedWindowRateLimiter.tryConsume).invoke
        "write_work_order_status" payload ctx conversationId) s).2.world =
      ((ChangeWorkOrderStatus.execute data.command).interpret (siteStore lookup) s.world).2 := by
  have hadmission := (admitted_iff hget payload conversationId _ _).mpr
    ⟨rfl, ⟨data, hparse, rfl⟩, hpermission⟩
  rw [exec_invoke_of_admitted hadmission, exec_limitedCall_of_allowed s hrate,
    (exec_executeApproved_once rfl (approval_buildToolGateway_true registry _ _ _ _)
      conversationId _).1]
  exact handler_world (WriteWorkOrderStatusInput.parse_dump pydantic data) s.world

/-- A fresh limiter allows the tool. -/
theorem rateAllowed_new (actor : String) :
    RateAllowed (buildToolGateway registry true FixedWindowRateLimiter.tryConsume)
      (buildWriteWorkOrderStatusTool py pydantic (siteStore lookup)).definition actor
      (FixedWindowRateLimiter.new 0) := by
  intro rateLimit tryConsume hlimit htry
  cases hlimit
  cases htry
  rfl

/-- Whoever has the permission changes what the lookup finds. -/
theorem exec_changing
    (hget : registry.get "write_work_order_status" =
      some (buildWriteWorkOrderStatusTool py pydantic (siteStore lookup)))
    (hpermission : Permission.workOrdersChangeStatus ∈ ctx.permissions)
    {orders : Table SiteOrder.id} {order : SiteOrder} {data : WriteWorkOrderStatusInput}
    (hfind : lookup.find data.command.workOrderCode none orders = some order)
    (hchangeable : Changeable data.command order) :
    (exec ((buildToolGateway registry true FixedWindowRateLimiter.tryConsume).invoke
        "write_work_order_status" data.dump ctx none) ⟨⟨orders, 0⟩, .new 0, []⟩).2.world.orders =
      orders.put { order with status := data.targetStatus } := by
  have hparse := WriteWorkOrderStatusInput.parse_dump pydantic data
  rw [world_of_allowed hget hpermission hparse none (rateAllowed_new _),
    interpret_execute_of_changeable hfind hchangeable]
  rfl

/-- Whoever has the permission cancels what the lookup finds. -/
theorem exec_cancelling
    (hget : registry.get "write_work_order_status" =
      some (buildWriteWorkOrderStatusTool py pydantic (siteStore lookup)))
    (hpermission : Permission.workOrdersChangeStatus ∈ ctx.permissions)
    {orders : Table SiteOrder.id} {order : SiteOrder} {workOrderCode : TrimmedText 1 100}
    (hfind : lookup.find (some workOrderCode.text) none orders = some order)
    (hterminal : order.status.isTerminal = false) :
    (exec ((buildToolGateway registry true FixedWindowRateLimiter.tryConsume).invoke
        "write_work_order_status" (cancelling workOrderCode).dump ctx none)
        ⟨⟨orders, 0⟩, .new 0, []⟩).2.world.orders =
      orders.put { order with status := .cancelled } := by
  have hcode : lookup.find (cancelling workOrderCode).command.workOrderCode none orders =
      some order := hfind
  exact exec_changing hget hpermission hcode (changeable_cancelling hterminal workOrderCode)

/-- An order whose status a call changes: the actor may change statuses, and the input's code finds
the order. -/
theorem changed_by_write
    (hget : registry.get "write_work_order_status" =
      some (buildWriteWorkOrderStatusTool py pydantic (siteStore lookup)))
    {payload : Payload} {conversationId : Option Uuid}
    {s : GatewayState SiteOrders FixedWindowRateLimiter} {order order' : SiteOrder}
    (horder : order ∈ s.world.orders)
    (horder' : order' ∈ (exec ((buildToolGateway registry true
        FixedWindowRateLimiter.tryConsume).invoke "write_work_order_status" payload ctx
        conversationId) s).2.world.orders)
    (hid : order'.id = order.id) (hchanged : order'.status ≠ order.status) :
    Permission.workOrdersChangeStatus ∈ ctx.permissions ∧
      Reachable lookup s.world.orders order ∧
      ∃ data, WriteWorkOrderStatusInput.parse pydantic payload = .ok data ∧
        Changeable data.command order ∧ order'.status = data.targetStatus := by
  have hold : order' ∉ s.world.orders := by
    intro hmem
    rw [eq_of_id_eq horder hmem hid] at hchanged
    exact hchanged rfl
  rcases world_write hget payload conversationId s with hsame | ⟨data, hparse, hpermission, hworld⟩
  · rw [hsame] at horder'
    exact absurd horder' hold
  rw [hworld] at horder'
  by_cases hchangeable : ∃ found, lookup.find data.command.workOrderCode none s.world.orders =
      some found ∧ Changeable data.command found
  · obtain ⟨found, hfind, hfound⟩ := hchangeable
    obtain ⟨hmem, hcode, -⟩ := lookup.found _ _ _ _ hfind
    rw [interpret_execute_of_changeable hfind hfound] at horder'
    rcases Table.mem_put.mp horder' with rfl | ⟨hmem', -⟩
    · obtain rfl : found = order := eq_of_id_eq horder hmem hid
      obtain ⟨workOrderCode, hdata, -⟩ := Option.map_eq_some_iff.mp hcode.symm
      refine ⟨hpermission, ⟨workOrderCode, ?_⟩, data, hparse, hfound, rfl⟩
      rw [← hfind]
      simp [WriteWorkOrderStatusInput.command, hdata]
    · exact absurd hmem' hold
  · push Not at hchangeable
    rw [interpret_execute_of_not_changeable hchangeable] at horder'
    exact absurd horder' hold

/-- An order of another site that the actor's permission reaches. -/
theorem not_changesInScope
    (hget : registry.get "write_work_order_status" =
      some (buildWriteWorkOrderStatusTool py pydantic (siteStore lookup)))
    (hglobal : ctx.globalScope ≠ true)
    (hpermission : Permission.workOrdersChangeStatus ∈ ctx.permissions)
    {orders : Table SiteOrder.id} {order : SiteOrder} (hreachable : Reachable lookup orders order)
    (hterminal : order.status.isTerminal = false) (hsite : order.siteCode ∉ ctx.siteCodes) :
    ¬ ChangesInScope registry ctx orders := by
  intro hscoped
  obtain ⟨workOrderCode, hfind⟩ := hreachable
  obtain ⟨hmem, -⟩ := lookup.found _ _ _ _ hfind
  have hcancelled : { order with status := .cancelled } ∈
      (exec ((buildToolGateway registry true FixedWindowRateLimiter.tryConsume).invoke
        "write_work_order_status" (cancelling workOrderCode).dump ctx none)
        ⟨⟨orders, 0⟩, .new 0, []⟩).2.world.orders := by
    rw [exec_cancelling hget hpermission hfind hterminal]
    exact Table.mem_put.mpr (Or.inl rfl)
  have hdiffers : WorkOrderStatus.cancelled ≠ order.status :=
    (changeable_cancelling hterminal workOrderCode).differs.symm
  rcases hscoped _ none ⟨⟨orders, 0⟩, .new 0, []⟩ rfl order hmem _ hcancelled rfl hdiffers with
    hscope | hscope
  · exact hglobal hscope
  · exact hsite hscope

/-- The actor's calls keep to the actor's sites exactly when the actor has global scope, or not the
permission to change a status, or when no order that can still change is found outside those
sites. -/
theorem changesInScope_iff
    (hget : registry.get "write_work_order_status" =
      some (buildWriteWorkOrderStatusTool py pydantic (siteStore lookup)))
    (ctx : AuthorizationContext) (orders : Table SiteOrder.id) :
    ChangesInScope registry ctx orders ↔
      ctx.globalScope = true ∨ Permission.workOrdersChangeStatus ∉ ctx.permissions ∨
        ∀ order, Reachable lookup orders order → order.status.isTerminal = false →
          order.siteCode ∈ ctx.siteCodes := by
  constructor
  · intro hscoped
    by_contra hnot
    push Not at hnot
    obtain ⟨hglobal, hpermission, order, hreachable, hterminal, hsite⟩ := hnot
    exact not_changesInScope hget hglobal hpermission hreachable hterminal hsite hscoped
  · intro hcond payload conversationId s horders order horder order' horder' hid hchanged
    subst horders
    obtain ⟨hpermission, hreachable, data, -, hchangeable, -⟩ :=
      changed_by_write hget horder horder' hid hchanged
    rcases hcond with hglobal | hnone | hsites
    · exact Or.inl hglobal
    · exact absurd hpermission hnone
    · exact Or.inr (hsites order hreachable hchangeable.notTerminal)

end

/-- The first order that matches. -/
def firstMatch : SiteLookup where
  find workOrderCode siteCode orders := orders.rows.find? fun order =>
    decide (some order.code = workOrderCode) && siteCode.all (fun site => order.siteCode = site)
  found := by
    intro workOrderCode siteCode orders order h
    have hmatches := List.find?_some h
    refine ⟨List.mem_of_find?_eq_some h, ?_⟩
    simp only [Bool.and_eq_true, decide_eq_true_eq, Option.all_eq_true] at hmatches
    exact ⟨hmatches.1, fun site hsite => hmatches.2 site hsite⟩
  missing := by
    intro workOrderCode siteCode orders h order horder hmatches
    have hnot := List.find?_eq_none.mp h order horder
    simp only [Bool.and_eq_true, decide_eq_true_eq, Option.all_eq_true] at hnot
    exact hnot ⟨hmatches.1, fun site hsite => hmatches.2 site hsite⟩

def exactPydantic : LaxPydantic where
  laxInt := Value.int?
  laxInt_int := Value.int?_int
  errorText model _ := "validation error for " ++ model
  laxUuid := fun
    | .str s => Uuid.parse Interpreter.ascii.toUnicodeData s
    | _ => none
  laxUuid_str id := Uuid.parse_str _ id
  laxBool := fun
    | .bool b => some b
    | _ => none
  laxBool_bool _ := rfl

def writeRegistry : ToolRegistry SiteOrders :=
  ⟨[("write_work_order_status",
    buildWriteWorkOrderStatusTool .ascii exactPydantic (siteStore firstMatch))],
    by simp [buildWriteWorkOrderStatusTool]⟩

/-- A technician of the first plant. -/
def technician : AuthorizationContext where
  userId := Uuid.ofNat 1
  roles := [.maintenanceTechnician]
  siteCodes := ["PLANT-1"]
  siteCodes_nodup := List.nodup_singleton _

/-- An open order of the second plant. -/
def otherPlantOrder : SiteOrder := ⟨Uuid.ofNat 7, "PLANT-2", "WO-1001", .open_⟩

def otherPlantOrders : Table SiteOrder.id := ⟨[otherPlantOrder], by simp⟩

def orderCode : TrimmedText 1 100 := ⟨"WO-1001", by decide, by decide, by decide⟩

theorem otherPlantOrder_reachable : Reachable firstMatch otherPlantOrders otherPlantOrder :=
  ⟨orderCode, rfl⟩

theorem technician_permitted : Permission.workOrdersChangeStatus ∈ technician.permissions := by
  decide

theorem changesInScope_iff_technician :
    ChangesInScope writeRegistry technician otherPlantOrders ↔
      technician.globalScope = true ∨
        Permission.workOrdersChangeStatus ∉ technician.permissions ∨
        ∀ order, Reachable firstMatch otherPlantOrders order → order.status.isTerminal = false →
          order.siteCode ∈ technician.siteCodes :=
  changesInScope_iff rfl technician otherPlantOrders

/-- A technician of one plant cancels the order of another. -/
theorem technician_leaves_scope :
    ¬ ChangesInScope writeRegistry technician otherPlantOrders := by
  have hget : writeRegistry.get "write_work_order_status" =
      some (buildWriteWorkOrderStatusTool .ascii exactPydantic (siteStore firstMatch)) := rfl
  exact not_changesInScope hget (by decide) technician_permitted otherPlantOrder_reachable rfl
    (by decide)

end HotAirBalloon.Operations
