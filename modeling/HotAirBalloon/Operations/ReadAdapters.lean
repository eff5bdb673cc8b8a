import HotAirBalloon.Operations.RawEvidence
import HotAirBalloon.Operations.SiteIsolation
import HotAirBalloon.Python.DateTimeOrder

/-!
# Read tools and their result adapters agree

A result adapter checks again, on texts, what the repository has asked for in SQL: that the rows
match the filters, that there are no more than the limit, that each has an identifier and that
the schedule is in order. `Adaptable` says what the adapter needs of the rows, and each query
provides it: the filters are equalities, the limit is a `LIMIT`, codes are never null, and the
texts of `due_at` are in the order of time (`isoformat_le`).
-/

namespace HotAirBalloon.Operations

open Python Kernel Gateway

/-! ## What an adapter needs -/

/-- Rows that hold what an applied payload asks for. -/
structure Adaptable (adapter : CollectionResultAdapter) (applied : Payload)
    (rows : List (Dict Value)) : Prop where
  within : ∀ limit : Int, applied.get? "limit" = some (.int limit) → rows.length ≤ limit
  filtered : ∀ row ∈ rows, ∀ filter ∈ adapter.filterFields, ∀ expected,
    presentValue applied filter.1 = some expected → row.get? filter.1 = some expected
  identified : ∀ row ∈ rows, ∃ field ∈ adapter.identifierFields, (presentValue row field).isSome
  ordered : ∀ field, adapter.orderField = some field → ∃ texts : List String,
    rows.map (fun row => row.get? field) = texts.map (fun text => some (.str text)) ∧
      texts.Pairwise (· ≤ ·)

namespace CollectionResultAdapter

variable {py : Interpreter} {adapter : CollectionResultAdapter} {applied : Payload}
  {rows : List (Dict Value)}

/-- They conform under every interpreter. -/
theorem conforms_of_adaptable (h : Adaptable adapter applied rows) :
    Conforms py adapter applied rows := by
  refine ⟨h.within, ?_, ?_⟩
  · intro row hrow
    refine ⟨?_, h.identified row hrow, ?_⟩
    · intro filter hfilter expected hexpected
      rw [h.filtered row hrow filter hfilter expected hexpected]
      rfl
    · intro field hfield
      obtain ⟨texts, htexts, -⟩ := h.ordered field hfield
      have hmem : row.get? field ∈ rows.map (fun row => row.get? field) := List.mem_map_of_mem hrow
      rw [htexts] at hmem
      obtain ⟨text, -, htext⟩ := List.mem_map.mp hmem
      exact ⟨text, htext.symm⟩
  · cases hfield : adapter.orderField with
    | none =>
      unfold orderText
      rw [hfield]
      simp
    | some field =>
      obtain ⟨texts, htexts, hsorted⟩ := h.ordered field hfield
      rw [filterMap_orderText hfield htexts]
      exact hsorted

/-- The adapter takes adaptable rows, and makes one item of each. -/
theorem toEvidence_ok (h : Adaptable adapter applied rows) {output : Payload}
    (houtput : output.get? adapter.collectionField = some (.list (rows.map .dict))) :
    ∃ block, adapter.toEvidence py applied output = .ok [.collection block] ∧
      block.items.length = rows.length := by
  obtain ⟨collection, hcollection, hof⟩ :
      ∃ collection, adapter.toRaw py applied output = .ok collection ∧
        CollectionOf py adapter applied rows collection :=
          toRaw_ok houtput (conforms_of_adaptable h)
  refine ⟨collection.scalars, ?_, ?_⟩
  · rw [toEvidence_eq, hcollection]
    rfl
  · rw [hof.items.length_eq]
    exact List.length_map _

end CollectionResultAdapter

/-! ## What the queries provide -/

section

variable {α : Type} {db : OperationsDb} {siteId : α → Uuid} {siteCode : Option String}

/-- A row of a query is a row of the table, of the site if one is asked for. -/
theorem mem_joinSite_optional {rows : List α} {row : α}
    (h : row ∈ db.joinSite siteId siteCode rows) :
    row ∈ rows ∧ ∀ code, siteCode = some code → siteCodeValue db (siteId row) = .str code := by
  cases siteCode with
  | none => exact ⟨h, fun code hcode => by cases hcode⟩
  | some code =>
    refine ⟨(mem_joinSite h).1, ?_⟩
    intro code' hcode
    cases hcode
    exact siteCodeValue_of_join h

end

theorem presentValue_optionalStr {data : Dict Value} {name : String} {text : Option String}
    {expected : Value} (hget : data.get? name = some (Value.optionalStr text))
    (h : presentValue data name = some expected) : ∃ s, text = some s ∧ expected = .str s := by
  unfold presentValue at h
  rw [hget] at h
  cases text with
  | none => cases h
  | some s =>
    cases h
    exact ⟨s, rfl, rfl⟩

/-- Rows that show the site that is asked for pass a filter on the site. -/
theorem site_filtered {applied row : Dict Value} {siteCode : Option String}
    (happlied : applied.get? "site_code" = some (Value.optionalStr siteCode))
    (hrow : ∀ code, siteCode = some code → row.get? "site_code" = some (.str code)) :
    ∀ filter ∈ [("site_code", "Site")], ∀ expected, presentValue applied filter.1 = some expected →
      row.get? filter.1 = some expected := by
  intro filter hfilter expected hexpected
  rw [List.mem_singleton] at hfilter
  subst hfilter
  obtain ⟨code, hcode, rfl⟩ := presentValue_optionalStr happlied hexpected
  exact hrow code hcode

/-- The due dates of the work orders are Python datetimes. -/
def DueInYears (db : OperationsDb) : Prop :=
  ∀ workOrder ∈ db.workOrders, ∀ due, workOrder.dueAt = some due → due.InYears

theorem workOrders_adaptable (db : OperationsDb) (data : GetWorkOrdersInput) :
    Adaptable workOrdersAdapter data.dump
      (listWorkOrders db data.siteCode (data.status.map (·.value)) data.limit.value) where
  within limit hlimit := by
    have hvalue : (data.limit.value : Int) = limit := by
      simpa [GetWorkOrdersInput.dump, Dict.get?_cons] using hlimit
    unfold listWorkOrders
    rw [List.length_map, ← hvalue]
    exact_mod_cast List.length_take_le _ _
  filtered row hrow filter hfilter expected hexpected := by
    obtain ⟨record, hrecord, rfl⟩ := List.mem_map.mp hrow
    have hmem := mem_of_mem_orderByDesc (List.mem_of_mem_take hrecord)
    rw [List.mem_filter] at hmem
    obtain ⟨-, hsite⟩ := mem_joinSite_optional hmem.1
    have hfilter' : filter = ("site_code", "Site") ∨ filter = ("status", "Status") := by
      simpa [workOrdersAdapter] using hfilter
    rcases hfilter' with rfl | rfl
    · obtain ⟨code, hcode, rfl⟩ := presentValue_optionalStr rfl hexpected
      simp [workOrderRow, Dict.get?_cons, hsite code hcode]
    · obtain ⟨status, hstatus, rfl⟩ := presentValue_optionalStr rfl hexpected
      have hmatch := hmem.2
      rw [hstatus] at hmatch
      have heq : record.status = status := by simpa using hmatch
      simp [workOrderRow, Dict.get?_cons, heq]
  identified row hrow := by
    obtain ⟨record, hrecord, rfl⟩ := List.mem_map.mp hrow
    exact ⟨"code", by simp [workOrdersAdapter], rfl⟩
  ordered field hfield := by cases hfield

theorem assets_adaptable (db : OperationsDb) (data : GetAssetStatusInput) :
    Adaptable assetsAdapter data.dump (getAssetStatus db data.siteCode) where
  within limit hlimit := by cases hlimit
  filtered row hrow := by
    obtain ⟨record, hrecord, rfl⟩ := List.mem_map.mp hrow
    obtain ⟨-, hsite⟩ := mem_joinSite_optional (mem_of_mem_orderBy hrecord)
    apply site_filtered rfl
    intro code hcode
    simp [assetRow, Dict.get?_cons, hsite code hcode]
  identified row hrow := by
    obtain ⟨record, hrecord, rfl⟩ := List.mem_map.mp hrow
    exact ⟨"code", by simp [assetsAdapter], rfl⟩
  ordered field hfield := by cases hfield

/-- What the three queries with a site and a limit have in common. -/
theorem siteLimit_adaptable {α : Type} {siteId : α → Uuid} {table records : List α}
    {render : OperationsDb → α → Dict Value} {adapter : CollectionResultAdapter} {db : OperationsDb}
    {data : SiteLimitInput} (hfilters : adapter.filterFields = [("site_code", "Site")])
    (hcode : "code" ∈ adapter.identifierFields)
    (hrender : ∀ record, (render db record).get? "site_code" =
        some (siteCodeValue db (siteId record)) ∧
      ∃ code, (render db record).get? "code" = some (.str code))
    (hrecords : ∀ record ∈ records, record ∈ db.joinSite siteId data.siteCode table)
    (hlength : records.length ≤ data.limit.value)
    (hordered : ∀ field, adapter.orderField = some field → ∃ texts : List String,
      (records.map (render db)).map (fun row => row.get? field) =
        texts.map (fun text => some (.str text)) ∧ texts.Pairwise (· ≤ ·)) :
    Adaptable adapter data.dump (records.map (render db)) where
  within limit hlimit := by
    have hvalue : (data.limit.value : Int) = limit := by
      simpa [SiteLimitInput.dump, Dict.get?_cons] using hlimit
    rw [List.length_map, ← hvalue]
    exact_mod_cast hlength
  filtered row hrow := by
    obtain ⟨record, hrecord, rfl⟩ := List.mem_map.mp hrow
    obtain ⟨-, hsite⟩ := mem_joinSite_optional (hrecords record hrecord)
    rw [hfilters]
    apply site_filtered rfl
    intro code hcode
    rw [(hrender record).1, hsite code hcode]
  identified row hrow := by
    obtain ⟨record, hrecord, rfl⟩ := List.mem_map.mp hrow
    obtain ⟨code, hget⟩ := (hrender record).2
    refine ⟨"code", hcode, ?_⟩
    unfold presentValue
    rw [hget]
    rfl
  ordered := hordered

theorem maintenanceTickets_adaptable (db : OperationsDb) (data : SiteLimitInput) :
    Adaptable maintenanceTicketsAdapter data.dump
      (listMaintenanceTickets db data.siteCode data.limit.value) := by
  apply @siteLimit_adaptable WorkOrderRecord WorkOrderRecord.siteId db.workOrders
  · rfl
  · simp [maintenanceTicketsAdapter]
  · exact fun record => ⟨rfl, record.code, rfl⟩
  · intro record hrecord
    exact List.mem_of_mem_filter
      (mem_of_mem_orderByDesc (mem_of_mem_orderByDesc (List.mem_of_mem_take hrecord)))
  · exact List.length_take_le _ _
  · intro field hfield
    cases hfield

theorem spareParts_adaptable (db : OperationsDb) (data : SiteLimitInput) :
    Adaptable sparePartsAdapter data.dump
      (listSparePartsAvailability db data.siteCode data.limit.value) := by
  apply @siteLimit_adaptable SparePartRecord SparePartRecord.siteId db.spareParts
  · rfl
  · simp [sparePartsAdapter]
  · exact fun record => ⟨rfl, record.code, rfl⟩
  · intro record hrecord
    exact mem_of_mem_orderBy (List.mem_of_mem_take hrecord)
  · exact List.length_take_le _ _
  · intro field hfield
    cases hfield

/-- The work orders of the schedule, before they are rendered. -/
def scheduled (db : OperationsDb) (siteCode : Option String) (limit : Nat) : List WorkOrderRecord :=
  (orderBy (fun a b => decide (a ≤ b)) (fun row => row.dueAt.getD 0)
    ((db.joinSite WorkOrderRecord.siteId siteCode db.workOrders).filter
      (fun row => row.dueAt.isSome))).take limit

theorem mem_scheduled {db : OperationsDb} {siteCode : Option String} {limit : Nat}
    {record : WorkOrderRecord} (h : record ∈ scheduled db siteCode limit) :
    record ∈ db.joinSite WorkOrderRecord.siteId siteCode db.workOrders ∧ record.dueAt.isSome := by
  have hmem := mem_of_mem_orderBy (List.mem_of_mem_take h)
  exact List.mem_filter.mp hmem

/-- The schedule is in the order of the due dates. -/
theorem scheduled_pairwise (db : OperationsDb) (siteCode : Option String) (limit : Nat) :
    (scheduled db siteCode limit).Pairwise (fun a b => a.dueAt.getD 0 ≤ b.dueAt.getD 0) := by
  unfold scheduled orderBy
  refine List.Pairwise.sublist (List.take_sublist _ _) ?_
  have hsorted := @List.pairwise_mergeSort WorkOrderRecord
    (fun a b => decide (a.dueAt.getD 0 ≤ b.dueAt.getD 0))
    (by simpa using fun a b c => le_trans) (by simpa using fun a b => le_total _ _)
    ((db.joinSite WorkOrderRecord.siteId siteCode db.workOrders).filter
      (fun row => row.dueAt.isSome))
  simpa using hsorted

/-- The texts of the due dates of a schedule are in order. -/
theorem scheduled_texts {db : OperationsDb} (hyears : DueInYears db) (siteCode : Option String)
    (limit : Nat) : ∃ texts : List String,
      (listProductionSchedule db siteCode limit).map (fun row => row.get? "due_at") =
        texts.map (fun text => some (.str text)) ∧ texts.Pairwise (· ≤ ·) := by
  refine ⟨(scheduled db siteCode limit).map (fun record => (record.dueAt.getD 0).isoformat), ?_, ?_⟩
  · change ((scheduled db siteCode limit).map (scheduleRow db)).map _ = _
    rw [List.map_map, List.map_map]
    apply List.map_congr_left
    intro record hrecord
    obtain ⟨due, hdue⟩ := Option.isSome_iff_exists.mp (mem_scheduled hrecord).2
    simp [scheduleRow, Dict.get?_cons, hdue, nullable]
  · rw [List.pairwise_map]
    refine (scheduled_pairwise db siteCode limit).imp_of_mem ?_
    intro a b ha hb hle
    have hdue : ∀ record ∈ scheduled db siteCode limit, (record.dueAt.getD 0).InYears := by
      intro record hrecord
      obtain ⟨hmem, hsome⟩ := mem_scheduled hrecord
      obtain ⟨due, hdue⟩ := Option.isSome_iff_exists.mp hsome
      rw [hdue]
      exact hyears record (mem_joinSite_optional hmem).1 due hdue
    exact DateTime.isoformat_le (hdue a ha) (hdue b hb) hle

theorem productionSchedule_adaptable {db : OperationsDb} (hyears : DueInYears db)
    (data : SiteLimitInput) : Adaptable productionScheduleAdapter data.dump
      (listProductionSchedule db data.siteCode data.limit.value) := by
  apply @siteLimit_adaptable WorkOrderRecord WorkOrderRecord.siteId db.workOrders
  · rfl
  · simp [productionScheduleAdapter]
  · exact fun record => ⟨rfl, record.code, rfl⟩
  · exact fun record hrecord => (mem_scheduled hrecord).1
  · exact List.length_take_le _ _
  · intro field hfield
    cases hfield
    exact scheduled_texts hyears data.siteCode data.limit.value

/-! ## The tools -/

/-- Rows of the table, rendered, pass the item model whether or not a site is asked for. -/
theorem rows_valid {α : Type} {pydantic : Pydantic} {table : OperationsDb → List α}
    {render : OperationsDb → α → Dict Value} {itemModel : ItemModel}
    (h : ValidRows pydantic table render itemModel) {db : OperationsDb} {records : List α}
    (hrecords : ∀ record ∈ records, record ∈ table db) :
    ∀ row ∈ records.map (render db), itemModel.modelValidate pydantic row = .ok row := by
  intro row hrow
  obtain ⟨record, hrecord, rfl⟩ := List.mem_map.mp hrow
  exact h db record (hrecords record hrecord)

theorem OutputModel.modelValidate_dump {pydantic : Pydantic} {model : OutputModel}
    (hfield : model.collectionField ≠ "tool_name") {rows : List (Dict Value)}
    (h : ∀ row ∈ rows, model.item.modelValidate pydantic row = .ok row) :
    model.modelValidate pydantic (model.dump rows) = .ok (model.dump rows) := by
  have hitems : (rows.map Value.dict).mapM (validateItem pydantic model) = .ok rows := by
    rw [List.mapM_map]
    exact mapM_of_self h
  simp [modelValidate, dump, onlyFields, Dict.get?_cons, hfield, Ne.symm hfield, hitems]

/-- The handler answers an applied payload, the output model accepts the answer, and the result
adapter makes evidence of it. -/
def AdaptsOutput (db : OperationsDb) (registration : AssistantToolRegistration OperationsDb)
    (applied : Payload) : Prop :=
  ∃ output evidence, (registration.definition.handler applied db).2 = .ok output ∧
    registration.definition.outputModel output = .ok output ∧
    registration.resultAdapter applied output = .ok evidence

theorem readTool_adapts {I : Type} {py : Interpreter} {pydantic : Pydantic}
    {parse : Payload → Except PyError I} {dump : I → Payload} {siteCode : I → Option String}
    {query : OperationsDb → I → List (Dict Value)} {output : OutputModel}
    {adapter : CollectionResultAdapter} {db : OperationsDb} {inputName description : String}
    {permission : User.Permission} (hinput : SiteInput parse dump siteCode)
    (hfield : output.collectionField = adapter.collectionField)
    (hne : output.collectionField ≠ "tool_name")
    (hvalid : ∀ input, ∀ row ∈ query db input, output.item.modelValidate pydantic row = .ok row)
    (hadapt : ∀ input, Adaptable adapter (dump input) (query db input)) {payload applied : Payload}
    (happlied : validateStrictInput (inputModel inputName parse dump) payload = .ok applied) :
    AdaptsOutput db
      (readTool py pydantic inputName description parse dump query output permission adapter)
      applied := by
  have hdump : (parse payload).map dump = .ok applied := happlied
  cases hparse : parse payload with
  | error e =>
    rw [hparse] at hdump
    cases hdump
  | ok input =>
    rw [hparse] at hdump
    cases hdump
    have houtput : (output.dump (query db input)).get? adapter.collectionField =
        some (.list ((query db input).map .dict)) := by
      simp [OutputModel.dump, Dict.get?_cons, ← hfield, hne]
    obtain ⟨block, hevidence, -⟩ : ∃ block, adapter.toEvidence py (dump input)
        (output.dump (query db input)) = .ok [.collection block] ∧ _ :=
      CollectionResultAdapter.toEvidence_ok (hadapt input) houtput
    refine ⟨output.dump (query db input), _, ?_, OutputModel.modelValidate_dump hne (hvalid input),
      hevidence⟩
    change (parse (dump input)).bind (fun data => output.ofRows pydantic (query db data)) = _
    rw [hinput.parse_dump payload input hparse]
    simp only [Except.bind, OutputModel.ofRows, mapM_of_self (hvalid input)]
    rfl

/-- Whatever the database and the payload, the output of a read tool is evidence for its adapter;
and the texts of the due dates of a schedule are in order. -/
theorem readTools_adapt {py : Interpreter} {pydantic : Pydantic} {db : OperationsDb}
    (hyears : DueInYears db) :
    (∀ registration ∈ readTools py pydantic, ∀ payload applied,
      validateStrictInput registration.definition.inputModel payload = .ok applied →
        AdaptsOutput db registration applied) ∧
    ∀ siteCode limit, ∃ texts : List String,
      (listProductionSchedule db siteCode limit).map (fun row => row.get? "due_at") =
        texts.map (fun text => some (.str text)) ∧ texts.Pairwise (· ≤ ·) := by
  refine ⟨?_, scheduled_texts hyears⟩
  intro registration hmem payload applied happlied
  simp only [readTools, List.mem_cons, List.not_mem_nil, or_false] at hmem
  rcases hmem with rfl | rfl | rfl | rfl | rfl
  · apply readTool_adapts (GetWorkOrdersInput.siteInput pydantic) rfl (by decide) _
      (workOrders_adaptable db) happlied
    intro data
    apply rows_valid (workOrderRow_valid pydantic)
    intro record hrecord
    have hmem := mem_of_mem_orderByDesc (List.mem_of_mem_take hrecord)
    exact (mem_joinSite_optional (List.mem_of_mem_filter hmem)).1
  · apply readTool_adapts (GetAssetStatusInput.siteInput pydantic) rfl (by decide) _
      (assets_adaptable db) happlied
    intro data
    apply rows_valid (assetRow_valid pydantic)
    intro record hrecord
    exact (mem_joinSite_optional (mem_of_mem_orderBy hrecord)).1
  · apply readTool_adapts (SiteLimitInput.siteInput pydantic _) rfl (by decide) _
      (maintenanceTickets_adaptable db) happlied
    intro data
    apply rows_valid (maintenanceTicketRow_valid pydantic)
    intro record hrecord
    have hmem := mem_of_mem_orderByDesc (mem_of_mem_orderByDesc (List.mem_of_mem_take hrecord))
    exact (mem_joinSite_optional (List.mem_of_mem_filter hmem)).1
  · apply readTool_adapts (SiteLimitInput.siteInput pydantic _) rfl (by decide) _
      (spareParts_adaptable db) happlied
    intro data
    apply rows_valid (sparePartRow_valid pydantic)
    intro record hrecord
    exact (mem_joinSite_optional (mem_of_mem_orderBy (List.mem_of_mem_take hrecord))).1
  · apply readTool_adapts (SiteLimitInput.siteInput pydantic _) rfl (by decide) _
      (productionSchedule_adaptable hyears) happlied
    intro data
    apply rows_valid (scheduleRow_valid pydantic)
    intro record hrecord
    exact (mem_joinSite_optional (mem_scheduled hrecord).1).1

/-- Two work orders that are due in the same second, the second one later by a microsecond. -/
def dueDb : OperationsDb :=
  { crossSiteDb "PUMP-1" with
    workOrders := [{ crossSiteOrder with dueAt := some 1787904000000001 },
      { crossSiteOrder with code := "WO-2", dueAt := some 1787904000000000 }]
    workOrderSites := by simp [crossSiteDb, crossSiteOrder]
    workOrderAssets := by simp [crossSiteDb, crossSiteOrder] }

theorem dueDb_inYears : DueInYears dueDb := by
  intro workOrder hmem due hdue
  have hcases : due = 1787904000000001 ∨ due = 1787904000000000 := by
    simp only [dueDb, List.mem_cons, List.not_mem_nil, or_false] at hmem
    rcases hmem with rfl | rfl
    · exact Or.inl (Option.some.inj hdue).symm
    · exact Or.inr (Option.some.inj hdue).symm
  rcases hcases with rfl | rfl <;> decide

theorem readTools_adapt_due :
    AdaptsOutput dueDb (buildGetProductionScheduleTool .ascii strictPydantic)
      (SiteLimitInput.dump ⟨none, .default⟩) ∧
    ∃ texts : List String,
      (listProductionSchedule dueDb (some "PLANT-1") 2).map (fun row => row.get? "due_at") =
        texts.map (fun text => some (.str text)) ∧ texts.Pairwise (· ≤ ·) :=
  ⟨(@readTools_adapt .ascii strictPydantic dueDb dueDb_inYears).1 _ (by simp [readTools]) [] _ rfl,
    (@readTools_adapt .ascii strictPydantic dueDb dueDb_inYears).2 (some "PLANT-1") 2⟩

end HotAirBalloon.Operations
