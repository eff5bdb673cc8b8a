import HotAirBalloon.Operations.ReadTools

/-!
# Queries for one site

What a query with a site code returns: rows of that site, and nothing that depends on the
rows of other sites, but for the code of the asset that a work order names. The foreign key
from a work order to its asset does not say that the asset is of the same site, so
`Agree` has to ask for the codes of those assets as well.
-/

namespace HotAirBalloon.Operations

open Python Gateway

/-! ## Joined rows -/

section

variable {α : Type} {db db' : OperationsDb} {siteId : α → Uuid}

theorem site_of_mem {site : SiteRecord} (h : site ∈ db.sites) : db.site site.id = some site := by
  have hnodup := db.siteIds_nodup
  unfold OperationsDb.site
  generalize db.sites = sites at h hnodup
  induction sites with
  | nil => cases h
  | cons first rest ih =>
    rw [List.map_cons, List.nodup_cons] at hnodup
    rw [List.find?_cons]
    rcases List.mem_cons.mp h with rfl | hrest
    · simp
    · have hne : first.id ≠ site.id := by
        intro heq
        exact hnodup.1 (heq ▸ List.mem_map_of_mem hrest)
      simp only [hne, decide_false]
      exact ih hrest hnodup.2

theorem siteCodeValue_eq {site : SiteRecord} (h : site ∈ db.sites) :
    siteCodeValue db site.id = .str site.code := by
  unfold siteCodeValue
  rw [site_of_mem h]
  rfl

/-- A joined row is a row of a site with the given code. -/
theorem mem_joinSite {code : String} {rows : List α} {row : α}
    (h : row ∈ db.joinSite siteId (some code) rows) :
    row ∈ rows ∧ ∃ site ∈ db.sites, siteId row = site.id ∧ site.code = code := by
  unfold OperationsDb.joinSite at h
  obtain ⟨row', hrow', hmem⟩ := List.mem_flatMap.mp h
  obtain ⟨site, hsite, rfl⟩ := List.mem_map.mp hmem
  rw [List.mem_filter, decide_eq_true_eq] at hsite
  exact ⟨hrow', site, hsite.1, hsite.2.1.symm, hsite.2.2⟩

theorem mem_of_mem_orderBy {κ : Type} {le : κ → κ → Bool} {key : α → κ} {rows : List α}
    {row : α} (h : row ∈ orderBy le key rows) : row ∈ rows :=
  List.mem_mergeSort.mp h

theorem mem_of_mem_orderByDesc {κ : Type} {le : κ → κ → Bool} {key : α → κ} {rows : List α}
    {row : α} (h : row ∈ orderByDesc le key rows) : row ∈ rows :=
  List.mem_mergeSort.mp h

end

/-! ## Databases that agree on some sites -/

/-- The rows that belong to sites with the given codes. -/
def rowsAt {α : Type} (db : OperationsDb) (codes : List String) (siteId : α → Uuid)
    (rows : List α) : List α :=
  rows.filter (fun row => db.sites.any (fun site => site.id = siteId row ∧ site.code ∈ codes))

/-- Two databases with the same sites, assets, work orders and spare parts of the sites with the
given codes. -/
structure AgreeOnSites (codes : List String) (db db' : OperationsDb) : Prop where
  sites : db.sites.filter (·.code ∈ codes) = db'.sites.filter (·.code ∈ codes)
  assets :
    rowsAt db codes AssetRecord.siteId db.assets = rowsAt db' codes AssetRecord.siteId db'.assets
  workOrders : rowsAt db codes WorkOrderRecord.siteId db.workOrders =
    rowsAt db' codes WorkOrderRecord.siteId db'.workOrders
  spareParts : rowsAt db codes SparePartRecord.siteId db.spareParts =
    rowsAt db' codes SparePartRecord.siteId db'.spareParts
  collation : db.collation = db'.collation

/-- They also show the same code for the asset of each of those work orders. -/
structure Agree (codes : List String) (db db' : OperationsDb) : Prop
    extends AgreeOnSites codes db db' where
  assetCodes : ∀ row ∈ rowsAt db codes WorkOrderRecord.siteId db.workOrders,
    assetCodeValue db row.assetId = assetCodeValue db' row.assetId

section

variable {α : Type} {db db' : OperationsDb} {siteId : α → Uuid} {codes : List String}
  {code : String}

theorem flatMap_filter_of_nil {β : Type} {p : α → Bool} {f : α → List β} {rows : List α}
    (h : ∀ row ∈ rows, p row = false → f row = []) :
    (rows.filter p).flatMap f = rows.flatMap f := by
  induction rows with
  | nil => rfl
  | cons row rest ih =>
    have hrest := ih (fun row' hrow' => h row' (List.mem_cons_of_mem row hrow'))
    rw [List.flatMap_cons]
    cases hp : p row with
    | true => rw [List.filter_cons_of_pos hp, List.flatMap_cons, hrest]
    | false =>
      rw [List.filter_cons_of_neg (by simp [hp]), hrest, h row List.mem_cons_self hp,
        List.nil_append]

/-- A join for one of the sites only reads the rows of those sites. -/
theorem joinSite_eq (hcode : code ∈ codes) (rows : List α) :
    db.joinSite siteId (some code) rows =
      (rowsAt db codes siteId rows).flatMap fun row =>
        (((db.sites.filter (·.code ∈ codes)).filter
          (fun site => site.id = siteId row ∧ site.code = code))).map (fun _ => row) := by
  have hfilter : ∀ row : α, (db.sites.filter (·.code ∈ codes)).filter
      (fun site => site.id = siteId row ∧ site.code = code) =
      db.sites.filter (fun site => site.id = siteId row ∧ site.code = code) := by
    intro row
    rw [List.filter_filter]
    apply List.filter_congr
    intro site _
    by_cases h : site.code = code
    · simp [h, hcode]
    · simp [h]
  simp only [hfilter]
  unfold OperationsDb.joinSite rowsAt
  refine (flatMap_filter_of_nil ?_).symm
  intro row _ hrow
  rw [List.map_eq_nil_iff, List.filter_eq_nil_iff]
  intro site hsite hmatch
  rw [decide_eq_true_eq] at hmatch
  have hany : db.sites.any (fun site => site.id = siteId row ∧ site.code ∈ codes) = true := by
    rw [List.any_eq_true]
    exact ⟨site, hsite, by simp [hmatch.1, hmatch.2, hcode]⟩
  rw [hany] at hrow
  cases hrow

theorem joinSite_congr (h : AgreeOnSites codes db db') (hcode : code ∈ codes) {rows rows' : List α}
    (hrows : rowsAt db codes siteId rows = rowsAt db' codes siteId rows') :
    db.joinSite siteId (some code) rows = db'.joinSite siteId (some code) rows' := by
  rw [joinSite_eq hcode, joinSite_eq hcode, hrows, h.sites]

/-- A joined row is among the rows of the sites. -/
theorem mem_rowsAt (hcode : code ∈ codes) {rows : List α} {row : α}
    (h : row ∈ db.joinSite siteId (some code) rows) : row ∈ rowsAt db codes siteId rows := by
  obtain ⟨hrow, site, hsite, hid, hsiteCode⟩ := mem_joinSite h
  refine List.mem_filter.mpr ⟨hrow, ?_⟩
  rw [List.any_eq_true]
  exact ⟨site, hsite, by simp [hid, hsiteCode, hcode]⟩

/-- The code of the site of a joined row is the code of the join. -/
theorem siteCodeValue_of_join {rows : List α} {row : α}
    (h : row ∈ db.joinSite siteId (some code) rows) :
    siteCodeValue db (siteId row) = .str code := by
  obtain ⟨-, site, hsite, hid, rfl⟩ := mem_joinSite h
  rw [hid]
  exact siteCodeValue_eq hsite

end

/-! ## Rows against the item models -/

/-- Every row of the table passes the item model unchanged. -/
def ValidRows {α : Type} (pydantic : Pydantic) (table : OperationsDb → List α)
    (render : OperationsDb → α → Dict Value) (item : ItemModel) : Prop :=
  ∀ db, ∀ row ∈ table db, item.modelValidate pydantic (render db row) = .ok (render db row)

theorem siteCodeValue_of_mem {db : OperationsDb} {siteId : Uuid}
    (h : siteId ∈ db.sites.map (·.id)) : ∃ code, siteCodeValue db siteId = .str code := by
  obtain ⟨site, hsite, rfl⟩ := List.mem_map.mp h
  exact ⟨site.code, siteCodeValue_eq hsite⟩

@[simp] theorem accepts_str (s : String) : FieldType.str.accepts (.str s) = true := rfl

@[simp] theorem accepts_optionalStr (s : String) : FieldType.optionalStr.accepts (.str s) = true :=
  rfl

@[simp] theorem accepts_int (i : Int) : FieldType.int.accepts (.int i) = true := rfl

@[simp] theorem accepts_bool (b : Bool) : FieldType.bool.accepts (.bool b) = true := rfl

@[simp] theorem accepts_nullable {α : Type} (write : α → String) (value : Option α) :
    FieldType.optionalStr.accepts (nullable write value) = true := by
  cases value <;> rfl

theorem workOrderRow_valid (pydantic : Pydantic) :
    ValidRows pydantic OperationsDb.workOrders workOrderRow workOrderItem := by
  intro db row hrow
  obtain ⟨code, hcode⟩ := siteCodeValue_of_mem (db.workOrderSites row hrow)
  simp [ItemModel.modelValidate, workOrderItem, workOrderRow, onlyFields, Dict.get?_cons, hcode]

theorem assetRow_valid (pydantic : Pydantic) :
    ValidRows pydantic OperationsDb.assets assetRow assetStatusItem := by
  intro db row hrow
  obtain ⟨code, hcode⟩ := siteCodeValue_of_mem (db.assetSites row hrow)
  simp [ItemModel.modelValidate, assetStatusItem, assetRow, onlyFields, Dict.get?_cons, hcode]

theorem maintenanceTicketRow_valid (pydantic : Pydantic) :
    ValidRows pydantic OperationsDb.workOrders maintenanceTicketRow maintenanceTicketItem := by
  intro db row hrow
  obtain ⟨code, hcode⟩ := siteCodeValue_of_mem (db.workOrderSites row hrow)
  simp [ItemModel.modelValidate, maintenanceTicketItem, maintenanceTicketRow, onlyFields,
    Dict.get?_cons, hcode, assetCodeValue]

theorem sparePartRow_valid (pydantic : Pydantic) :
    ValidRows pydantic OperationsDb.spareParts sparePartRow sparePartItem := by
  intro db row hrow
  obtain ⟨code, hcode⟩ := siteCodeValue_of_mem (db.sparePartSites row hrow)
  simp [ItemModel.modelValidate, sparePartItem, sparePartRow, onlyFields, Dict.get?_cons, hcode]

theorem scheduleRow_valid (pydantic : Pydantic) :
    ValidRows pydantic OperationsDb.workOrders scheduleRow productionScheduleItem := by
  intro db row hrow
  obtain ⟨code, hcode⟩ := siteCodeValue_of_mem (db.workOrderSites row hrow)
  simp [ItemModel.modelValidate, productionScheduleItem, scheduleRow, onlyFields, Dict.get?_cons,
    hcode, assetCodeValue]

/-! ## The five queries -/

/-- A row that a query returned for a row of a site. -/
inductive RowOf (db : OperationsDb) (site : SiteRecord) : Dict Value → Prop
  | workOrder {row} (mem : row ∈ db.workOrders) (site_eq : row.siteId = site.id) :
      RowOf db site (workOrderRow db row)
  | asset {row} (mem : row ∈ db.assets) (site_eq : row.siteId = site.id) :
      RowOf db site (assetRow db row)
  | ticket {row} (mem : row ∈ db.workOrders) (site_eq : row.siteId = site.id) :
      RowOf db site (maintenanceTicketRow db row)
  | sparePart {row} (mem : row ∈ db.spareParts) (site_eq : row.siteId = site.id) :
      RowOf db site (sparePartRow db row)
  | scheduled {row} (mem : row ∈ db.workOrders) (site_eq : row.siteId = site.id) :
      RowOf db site (scheduleRow db row)

/-- A row shows the code of its site. -/
theorem RowOf.siteCode {db : OperationsDb} {site : SiteRecord} {row : Dict Value}
    (h : RowOf db site row) (hsite : site ∈ db.sites) :
    row.get? "site_code" = some (.str site.code) := by
  cases h with
  | workOrder mem heq => simp [workOrderRow, Dict.get?_cons, heq, siteCodeValue_eq hsite]
  | asset mem heq => simp [assetRow, Dict.get?_cons, heq, siteCodeValue_eq hsite]
  | ticket mem heq => simp [maintenanceTicketRow, Dict.get?_cons, heq, siteCodeValue_eq hsite]
  | sparePart mem heq => simp [sparePartRow, Dict.get?_cons, heq, siteCodeValue_eq hsite]
  | scheduled mem heq => simp [scheduleRow, Dict.get?_cons, heq, siteCodeValue_eq hsite]

/-- What a query for one site guarantees. -/
structure SiteQuery {I : Type} (pydantic : Pydantic) (query : OperationsDb → I → List (Dict Value))
    (siteCode : I → Option String) (item : ItemModel) : Prop where
  valid : ∀ db input code, siteCode input = some code → ∀ row ∈ query db input,
    item.modelValidate pydantic row = .ok row
  rowOf : ∀ db input code, siteCode input = some code → ∀ row ∈ query db input,
    ∃ site ∈ db.sites, site.code = code ∧ RowOf db site row
  congr : ∀ db db' codes input code, siteCode input = some code → code ∈ codes →
    Agree codes db db' → query db input = query db' input

/-- A table whose rows belong to sites, with the row that a query makes of each. -/
structure SiteTable {α : Type} (pydantic : Pydantic) (siteId : α → Uuid)
    (table : OperationsDb → List α) (render : OperationsDb → α → Dict Value) (item : ItemModel) :
    Prop where
  valid : ValidRows pydantic table render item
  rowOf : ∀ (db : OperationsDb) site row, row ∈ table db → siteId row = site.id →
    RowOf db site (render db row)
  agree : ∀ (db db' : OperationsDb) codes, Agree codes db db' →
    rowsAt db codes siteId (table db) = rowsAt db' codes siteId (table db')
  render_congr : ∀ (db db' : OperationsDb) codes row, Agree codes db db' →
    row ∈ rowsAt db codes siteId (table db) →
    siteCodeValue db (siteId row) = siteCodeValue db' (siteId row) → render db row = render db' row

section

variable (pydantic : Pydantic)

/-- A query that joins the site, selects and renders. Nothing is asked of the selection but that
it invents no rows. -/
theorem siteQuery_of_table {α I : Type} {siteId : α → Uuid} {table : OperationsDb → List α}
    {render : OperationsDb → α → Dict Value} {item : ItemModel}
    (h : SiteTable pydantic siteId table render item) (siteCode : I → Option String)
    (select : (String → String → Bool) → I → List α → List α)
    (hselect : ∀ collation input rows row, row ∈ select collation input rows → row ∈ rows) :
    SiteQuery pydantic (fun db input =>
      (select db.collation input (db.joinSite siteId (siteCode input) (table db))).map (render db))
      siteCode item := by
  constructor
  · intro db input code hcode row hrow
    rw [hcode] at hrow
    obtain ⟨record, hrecord, rfl⟩ := List.mem_map.mp hrow
    exact h.valid db record (mem_joinSite (hselect _ _ _ _ hrecord)).1
  · intro db input code hcode row hrow
    rw [hcode] at hrow
    obtain ⟨record, hrecord, rfl⟩ := List.mem_map.mp hrow
    obtain ⟨hmem, site, hsite, hid, hsiteCode⟩ := mem_joinSite (hselect _ _ _ _ hrecord)
    exact ⟨site, hsite, hsiteCode, h.rowOf db site record hmem hid⟩
  · intro db db' codes input code hcode hcodes hagree
    have hjoin := joinSite_congr hagree.toAgreeOnSites hcodes (h.agree db db' codes hagree)
    simp only [hcode, ← hjoin, ← hagree.collation]
    apply List.map_congr_left
    intro record hrecord
    have hmem := hselect _ _ _ _ hrecord
    have hmem' := hmem
    rw [hjoin] at hmem'
    apply h.render_congr db db' codes record hagree (mem_rowsAt hcodes hmem)
    rw [siteCodeValue_of_join hmem, siteCodeValue_of_join hmem']

theorem workOrderRow_siteTable :
    SiteTable pydantic WorkOrderRecord.siteId OperationsDb.workOrders workOrderRow
      workOrderItem where
  valid := workOrderRow_valid pydantic
  rowOf _ _ _ := .workOrder
  agree _ _ _ h := h.workOrders
  render_congr db db' codes row _ _ hsite := by
    unfold workOrderRow
    rw [hsite]

theorem assetRow_siteTable :
    SiteTable pydantic AssetRecord.siteId OperationsDb.assets assetRow assetStatusItem where
  valid := assetRow_valid pydantic
  rowOf _ _ _ := .asset
  agree _ _ _ h := h.assets
  render_congr db db' codes row _ _ hsite := by
    unfold assetRow
    rw [hsite]

theorem maintenanceTicketRow_siteTable :
    SiteTable pydantic WorkOrderRecord.siteId OperationsDb.workOrders maintenanceTicketRow
      maintenanceTicketItem where
  valid := maintenanceTicketRow_valid pydantic
  rowOf _ _ _ := .ticket
  agree _ _ _ h := h.workOrders
  render_congr db db' codes row h hrow hsite := by
    unfold maintenanceTicketRow
    rw [hsite, h.assetCodes row hrow]

theorem sparePartRow_siteTable :
    SiteTable pydantic SparePartRecord.siteId OperationsDb.spareParts sparePartRow
      sparePartItem where
  valid := sparePartRow_valid pydantic
  rowOf _ _ _ := .sparePart
  agree _ _ _ h := h.spareParts
  render_congr db db' codes row _ _ hsite := by
    unfold sparePartRow
    rw [hsite]

theorem scheduleRow_siteTable :
    SiteTable pydantic WorkOrderRecord.siteId OperationsDb.workOrders scheduleRow
      productionScheduleItem where
  valid := scheduleRow_valid pydantic
  rowOf _ _ _ := .scheduled
  agree _ _ _ h := h.workOrders
  render_congr db db' codes row h hrow hsite := by
    unfold scheduleRow
    rw [hsite, h.assetCodes row hrow]

theorem siteQuery_workOrders : SiteQuery pydantic
    (fun db (data : GetWorkOrdersInput) =>
      listWorkOrders db data.siteCode (data.status.map (·.value)) data.limit.value)
    GetWorkOrdersInput.siteCode workOrderItem := by
  refine siteQuery_of_table pydantic (workOrderRow_siteTable pydantic) GetWorkOrdersInput.siteCode
    (fun _ data rows =>
      (orderByDesc (fun a b => decide (a ≤ b)) WorkOrderRecord.createdAt (rows.filter
        (fun row => (data.status.map (·.value)).all (row.status = ·)))).take data.limit.value) ?_
  intro _ _ rows row h
  exact List.mem_of_mem_filter (mem_of_mem_orderByDesc (List.mem_of_mem_take h))

theorem siteQuery_assets : SiteQuery pydantic
    (fun db (data : GetAssetStatusInput) => getAssetStatus db data.siteCode)
    GetAssetStatusInput.siteCode assetStatusItem := by
  refine siteQuery_of_table pydantic (assetRow_siteTable pydantic) GetAssetStatusInput.siteCode
    (fun collation _ rows => orderBy collation AssetRecord.code rows) ?_
  intro _ _ rows row h
  exact mem_of_mem_orderBy h

theorem siteQuery_maintenanceTickets : SiteQuery pydantic
    (fun db (data : SiteLimitInput) =>
      listMaintenanceTickets db data.siteCode data.limit.value)
    SiteLimitInput.siteCode maintenanceTicketItem := by
  refine siteQuery_of_table pydantic (maintenanceTicketRow_siteTable pydantic)
    SiteLimitInput.siteCode
    (fun collation data rows =>
      (orderByDesc collation WorkOrderRecord.priority
        (orderByDesc (fun a b => decide (a ≤ b)) WorkOrderRecord.createdAt
          (rows.filter (fun row => row.status ∈ ticketStatuses)))).take data.limit.value) ?_
  intro _ _ rows row h
  exact List.mem_of_mem_filter
    (mem_of_mem_orderByDesc (mem_of_mem_orderByDesc (List.mem_of_mem_take h)))

theorem siteQuery_spareParts : SiteQuery pydantic
    (fun db (data : SiteLimitInput) =>
      listSparePartsAvailability db data.siteCode data.limit.value)
    SiteLimitInput.siteCode sparePartItem := by
  refine siteQuery_of_table pydantic (sparePartRow_siteTable pydantic) SiteLimitInput.siteCode
    (fun collation data rows => (orderBy collation SparePartRecord.code rows).take data.limit.value)
    ?_
  intro _ _ rows row h
  exact mem_of_mem_orderBy (List.mem_of_mem_take h)

theorem siteQuery_productionSchedule : SiteQuery pydantic
    (fun db (data : SiteLimitInput) =>
      listProductionSchedule db data.siteCode data.limit.value)
    SiteLimitInput.siteCode productionScheduleItem := by
  refine siteQuery_of_table pydantic (scheduleRow_siteTable pydantic) SiteLimitInput.siteCode
    (fun _ data rows =>
      (orderBy (fun a b => decide (a ≤ b)) (fun row => row.dueAt.getD 0)
        (rows.filter (fun row => row.dueAt.isSome))).take data.limit.value) ?_
  intro _ _ rows row h
  exact List.mem_of_mem_filter (mem_of_mem_orderBy (List.mem_of_mem_take h))

end

end HotAirBalloon.Operations
