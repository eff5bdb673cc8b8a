import HotAirBalloon.Agent.QueryParsers
import HotAirBalloon.Evidence.Snapshot

/-!
# References to earlier answers

`application/reference_resolution`: a follow-up question is answered from the last collection that
the conversation has stored, without a model or a tool. `resolve_exactly` says which items the
answer is about and which values it gives.
-/

namespace HotAirBalloon.Agent

open Python Kernel Evidence

/-! ## Contracts -/

inductive ResolutionStatus where
  | resolved
  | noReference
  | noEvidence
  | ambiguous
  deriving DecidableEq

inductive FieldQueryStatus where
  | complete
  | partialValues
  | empty
  deriving DecidableEq

structure ResolvedReference where
  entityLabel : String
  items : List EvidenceItem
  request : ReferenceRequest

structure ResolutionOutcome where
  status : ResolutionStatus
  reference : Option ResolvedReference := none

structure FieldValue where
  entityId : String
  label : String
  fieldName : String
  value : EvidenceScalar

structure FieldQueryResult where
  entityLabel : String
  fieldName : String
  values : List FieldValue
  status : FieldQueryStatus

/-! ## The resolver -/

/-- `ReferenceValueRanker.rank`. -/
abbrev ReferenceValueRanker := EvidenceScalar → Option Int

/-- The resolver, with a parser that may raise. -/
structure ReferenceResolver where
  parser : String → Except PyError (Option ReferenceRequest)
  rankers : Dict ReferenceValueRanker

/-- `_latest_collection`. -/
def latestCollection (snapshots : List ConversationEvidenceSnapshot) : Option CollectionEvidence :=
  snapshots.reverse.findSome? fun snapshot =>
    snapshot.evidence.reverse.findSome? fun evidence =>
      match evidence with
      | .collection block => if block.items.isEmpty then none else some block
      | _ => none

/-- `_select_items`. -/
def selectItems (items : List EvidenceItem) : Option Int → List EvidenceItem
  | none => items
  | some ordinal =>
    if 0 ≤ ordinal ∧ ordinal < items.length then items[ordinal.toNat]?.toList else []

/-- `_field_value`: the first field of the name. -/
def fieldValue (item : EvidenceItem) (fieldName : String) : EvidenceScalar :=
  ((item.fields.find? (fun field => field.name = fieldName)).map (·.value)).getD .none

/-- `_ranked_items`. -/
def rankedItems (items : List EvidenceItem) (request : ReferenceRequest)
    (ranker : ReferenceValueRanker) : List EvidenceItem :=
  let ranked := items.filterMap fun item =>
    (ranker (fieldValue item request.fieldName)).map fun value => (item, value)
  let values := ranked.map (·.2)
  match (if request.operation = .maximum then values.max? else values.min?) with
  | none => []
  | some target => (ranked.filter (fun entry => entry.2 = target)).map (·.1)

/-- What `resolve` does with a request. -/
def ReferenceResolver.resolveRequest (resolver : ReferenceResolver) (request : ReferenceRequest)
    (snapshots : List ConversationEvidenceSnapshot) : ResolutionOutcome :=
  match latestCollection snapshots with
  | none => { status := .noEvidence }
  | some collection =>
    let items := selectItems collection.items request.ordinal
    if items.isEmpty then { status := .ambiguous }
    else if request.operation ≠ .field then
      match resolver.rankers.get? request.fieldName with
      | none => { status := .ambiguous }
      | some ranker =>
        let items := rankedItems items request ranker
        if items.isEmpty then { status := .ambiguous }
        else {
          status := .resolved
          reference := some ⟨collection.entityLabel, items, request⟩ }
    else {
      status := .resolved
      reference := some ⟨collection.entityLabel, items, request⟩ }

/-- `resolve`. -/
def ReferenceResolver.resolve (resolver : ReferenceResolver) (query : String)
    (snapshots : List ConversationEvidenceSnapshot) : Except PyError ResolutionOutcome := do
  match ← resolver.parser query with
  | none => return { status := .noReference }
  | some request => return resolver.resolveRequest request snapshots

/-- `FieldQueryExecutor.execute`. -/
def FieldQueryExecutor.execute (reference : ResolvedReference) : FieldQueryResult :=
  let values := reference.items.map fun item => {
    entityId := item.entityId
    label := item.label
    fieldName := reference.request.fieldName
    value := fieldValue item reference.request.fieldName : FieldValue }
  let present := values.countP (fun value => value.value ≠ .none)
  {
    entityLabel := reference.entityLabel
    fieldName := reference.request.fieldName
    values := values
    status :=
      if present = values.length then .complete else if present ≠ 0 then .partialValues
        else .empty }

/-! ## What a question is about -/

/-- The last collection with items of the latest snapshot that has one. -/
def IsLatestCollection (snapshots : List ConversationEvidenceSnapshot)
    (collection : CollectionEvidence) : Prop :=
  collection.items ≠ [] ∧ ∃ before snapshot after, snapshots = before ++ snapshot :: after ∧
    (∀ later ∈ after, ∀ block, .collection block ∈ later.evidence → block.items = []) ∧
    ∃ first rest, snapshot.evidence = first ++ .collection collection :: rest ∧
      ∀ block, .collection block ∈ rest → block.items = []

/-- The item that an ordinal names, or all items. -/
def Selects (items : List EvidenceItem) : Option Int → List EvidenceItem → Prop
  | none, selected => selected = items
  | some ordinal, selected => ∃ (index : Nat) (item : EvidenceItem), ordinal = index ∧
      items[index]? = some item ∧ selected = [item]

/-- A rank that no other item exceeds, or that none falls below. -/
def IsExtremal (request : ReferenceRequest) (ranker : ReferenceValueRanker)
    (items : List EvidenceItem) (item : EvidenceItem) : Prop :=
  ∃ r, ranker (fieldValue item request.fieldName) = some r ∧
    ∀ other ∈ items, ∀ s, ranker (fieldValue other request.fieldName) = some s →
      if request.operation = .maximum then s ≤ r else r ≤ s

open Classical in
/-- What becomes of a request on a collection. -/
inductive Resolution (resolver : ReferenceResolver) (request : ReferenceRequest)
    (collection : CollectionEvidence) : ResolutionOutcome → Prop where
  | noItem (h : ∀ selected, ¬ Selects collection.items request.ordinal selected) :
      Resolution resolver request collection ⟨.ambiguous, none⟩
  | noRanker (hoperation : request.operation ≠ .field)
      (h : resolver.rankers.get? request.fieldName = none) :
      Resolution resolver request collection ⟨.ambiguous, none⟩
  | unrankable (selected : List EvidenceItem) (ranker : ReferenceValueRanker)
      (hselected : Selects collection.items request.ordinal selected)
      (hoperation : request.operation ≠ .field)
      (hranker : resolver.rankers.get? request.fieldName = some ranker)
      (h : ∀ item ∈ selected, ranker (fieldValue item request.fieldName) = none) :
      Resolution resolver request collection ⟨.ambiguous, none⟩
  | all (selected : List EvidenceItem)
      (hselected : Selects collection.items request.ordinal selected)
      (hoperation : request.operation = .field) :
      Resolution resolver request collection
        ⟨.resolved, some ⟨collection.entityLabel, selected, request⟩⟩
  | extremal (selected : List EvidenceItem) (ranker : ReferenceValueRanker)
      (hselected : Selects collection.items request.ordinal selected)
      (hoperation : request.operation ≠ .field)
      (hranker : resolver.rankers.get? request.fieldName = some ranker)
      (h : ∃ item ∈ selected, (ranker (fieldValue item request.fieldName)).isSome) :
      Resolution resolver request collection ⟨.resolved, some ⟨collection.entityLabel,
        selected.filter (fun item => decide (IsExtremal request ranker selected item)), request⟩⟩

/-- The value of the first field of a name, or nothing when there is none. -/
def FirstField (item : EvidenceItem) (fieldName : String) (value : EvidenceScalar) : Prop :=
  ((∀ field ∈ item.fields, field.name ≠ fieldName) ∧ value = .none) ∨
  ∃ before field after, item.fields = before ++ field :: after ∧
    (∀ other ∈ before, other.name ≠ fieldName) ∧ field.name = fieldName ∧ value = field.value

/-- One value for each item, and whether all, some or none are there. -/
structure Executed (reference : ResolvedReference) (result : FieldQueryResult) : Prop where
  entityLabel : result.entityLabel = reference.entityLabel
  values :
    List.Forall₂ (fun item value => value.entityId = item.entityId ∧ value.label = item.label ∧
      value.fieldName = reference.request.fieldName ∧
      FirstField item reference.request.fieldName value.value) reference.items result.values
  complete : result.status = .complete ↔ ∀ value ∈ result.values, value.value ≠ .none
  empty : result.status = .empty ↔ ∀ value ∈ result.values, value.value = .none
  partialValues : result.status = .partialValues ↔
    (∃ value ∈ result.values, value.value ≠ .none) ∧ ∃ value ∈ result.values, value.value = .none

section

variable {snapshots : List ConversationEvidenceSnapshot} {items selected : List EvidenceItem}
  {ordinal : Option Int} {request : ReferenceRequest} {ranker : ReferenceValueRanker}
  {fieldName : String}

/-! ## The latest collection -/

theorem findSome?_reverse {α β : Type} {f : α → Option β} {l : List α} {b : β}
    (h : l.reverse.findSome? f = some b) :
    ∃ before a after, l = before ++ a :: after ∧ f a = some b ∧ ∀ a' ∈ after, f a' = none := by
  obtain ⟨later, a, earlier, hsplit, ha, hlater⟩ := List.findSome?_eq_some_iff.mp h
  refine ⟨earlier.reverse, a, later.reverse, ?_, ha, ?_⟩
  · rw [← List.reverse_reverse l, hsplit, List.reverse_append, List.reverse_cons, List.append_assoc,
      List.singleton_append]
  · intro a' ha'
    exact hlater a' (List.mem_reverse.mp ha')

/-- The collection that an evidence block is, if it has items. -/
def collectionOf : EvidenceBlock → Option CollectionEvidence
  | .collection block => if block.items.isEmpty then none else some block
  | _ => none

theorem collectionOf_eq_some_iff {evidence : EvidenceBlock} {block : CollectionEvidence} :
    collectionOf evidence = some block ↔ evidence = .collection block ∧ block.items ≠ [] := by
  cases evidence with
  | collection found =>
    unfold collectionOf
    dsimp only
    by_cases hempty : found.items = []
    · rw [if_pos (by rw [hempty]; rfl)]
      constructor
      · intro h
        cases h
      · rintro ⟨heq, hsome⟩
        cases heq
        exact absurd hempty hsome
    · rw [if_neg (by simpa using hempty)]
      constructor
      · intro h
        cases h
        exact ⟨rfl, hempty⟩
      · rintro ⟨heq, -⟩
        cases heq
        rfl
  | _ =>
    constructor
    · intro h
      cases h
    · rintro ⟨heq, -⟩
      cases heq

theorem collectionOf_eq_none {block : CollectionEvidence}
    (h : collectionOf (.collection block) = none) : block.items = [] := by
  by_contra hsome
  rw [collectionOf_eq_some_iff.mpr ⟨rfl, hsome⟩] at h
  cases h

theorem latestCollection_eq : latestCollection snapshots =
    snapshots.reverse.findSome? (fun snapshot =>
      snapshot.evidence.reverse.findSome? collectionOf) := rfl

theorem isLatestCollection_of_eq_some {collection : CollectionEvidence}
    (h : latestCollection snapshots = some collection) :
    IsLatestCollection snapshots collection := by
  rw [latestCollection_eq] at h
  obtain ⟨before, snapshot, after, hsnapshots, hsnapshot, hafter⟩ := findSome?_reverse h
  obtain ⟨first, evidence, rest, hevidence, hcollection, hrest⟩ := findSome?_reverse hsnapshot
  obtain ⟨rfl, hsome⟩ := collectionOf_eq_some_iff.mp hcollection
  refine ⟨hsome, before, snapshot, after, hsnapshots, ?_, first, rest, hevidence, ?_⟩
  · intro later hlater block hblock
    have hnone := List.findSome?_eq_none_iff.mp (hafter later hlater)
    exact collectionOf_eq_none (hnone _ (List.mem_reverse.mpr hblock))
  · intro block hblock
    exact collectionOf_eq_none (hrest _ hblock)

theorem not_isLatestCollection (h : latestCollection snapshots = none)
    (collection : CollectionEvidence) : ¬ IsLatestCollection snapshots collection := by
  rintro ⟨hsome, before, snapshot, after, rfl, -, first, rest, hevidence, -⟩
  rw [latestCollection_eq, List.findSome?_eq_none_iff] at h
  have hsnapshot := h snapshot (by simp)
  rw [List.findSome?_eq_none_iff] at hsnapshot
  exact hsome (collectionOf_eq_none (hsnapshot (.collection collection) (by simp [hevidence])))

/-! ## The selected items -/

theorem selects_selectItems (h : selectItems items ordinal ≠ []) :
    Selects items ordinal (selectItems items ordinal) := by
  cases ordinal with
  | none => rfl
  | some ordinal =>
    unfold selectItems at h ⊢
    dsimp only at h ⊢
    by_cases hwithin : 0 ≤ ordinal ∧ ordinal < items.length
    · have hindex : ordinal.toNat < items.length := by omega
      rw [if_pos hwithin, List.getElem?_eq_getElem hindex]
      exact ⟨ordinal.toNat, items[ordinal.toNat], by omega, List.getElem?_eq_getElem hindex, rfl⟩
    · rw [if_neg hwithin] at h
      exact absurd rfl h

theorem not_selects (hitems : items ≠ []) (h : selectItems items ordinal = []) :
    ¬ Selects items ordinal selected := by
  intro hselects
  cases ordinal with
  | none => exact hitems h
  | some ordinal =>
    obtain ⟨index, item, rfl, hitem, -⟩ := hselects
    obtain ⟨hindex, -⟩ := List.getElem?_eq_some_iff.mp hitem
    unfold selectItems at h
    dsimp only at h
    rw [if_pos (by omega), Int.toNat_natCast, hitem] at h
    cases h

/-! ## The ranked items -/

section

variable {rank : EvidenceItem → Option Int}

theorem map_snd_ranked :
    (items.filterMap fun item => (rank item).map fun value => (item, value)).map
    (·.2) = items.filterMap rank := by
  rw [List.map_filterMap]
  apply List.filterMap_congr
  intro item _
  cases rank item <;> rfl

theorem map_fst_ranked (target : Int) : ((items.filterMap fun item =>
    (rank item).map fun value => (item, value)).filter (fun entry => entry.2 = target)).map (·.1) =
      items.filter (fun item => rank item = some target) := by
  induction items with
  | nil => rfl
  | cons item rest ih =>
    cases hrank : rank item with
    | none =>
      rw [List.filterMap_cons_none (by rw [hrank]; rfl), List.filter_cons_of_neg (by simp [hrank])]
      exact ih
    | some value =>
      rw [List.filterMap_cons_some (by rw [hrank]; rfl)]
      by_cases hvalue : value = target
      · rw [List.filter_cons_of_pos (by simpa using hvalue), List.map_cons,
          List.filter_cons_of_pos (by simp [hrank, hvalue]), ih]
      · rw [List.filter_cons_of_neg (by simpa using hvalue),
          List.filter_cons_of_neg (by simp [hrank, hvalue]), ih]

end

/-- The rank that the items are compared with. -/
def targetRank (request : ReferenceRequest) (ranker : ReferenceValueRanker)
    (items : List EvidenceItem) : Option Int :=
  let values := items.filterMap fun item => ranker (fieldValue item request.fieldName)
  if request.operation = .maximum then values.max? else values.min?

theorem rankedItems_eq_match : rankedItems items request ranker =
    match targetRank request ranker items with
    | none => []
    | some target =>
      items.filter (fun item => ranker (fieldValue item request.fieldName) = some target) := by
  unfold rankedItems targetRank
  dsimp only
  rw [map_snd_ranked]
  cases (if request.operation = .maximum
    then (items.filterMap fun item => ranker (fieldValue item request.fieldName)).max?
    else (items.filterMap fun item => ranker (fieldValue item request.fieldName)).min?) with
  | none => rfl
  | some target => exact map_fst_ranked target

theorem targetRank_eq_some_iff {target : Int} : targetRank request ranker items = some target ↔
    (∃ item ∈ items, ranker (fieldValue item request.fieldName) = some target) ∧
      ∀ item ∈ items, ∀ s, ranker (fieldValue item request.fieldName) = some s →
        if request.operation = .maximum then s ≤ target else target ≤ s := by
  have hbest : targetRank request ranker items = some target ↔
      target ∈ items.filterMap (fun item => ranker (fieldValue item request.fieldName)) ∧
      ∀ s ∈ items.filterMap (fun item => ranker (fieldValue item request.fieldName)),
        if request.operation = .maximum then s ≤ target else target ≤ s := by
    unfold targetRank
    by_cases hmaximum : request.operation = .maximum
    · simp only [if_pos hmaximum]
      exact List.max?_eq_some_iff
    · simp only [if_neg hmaximum]
      exact List.min?_eq_some_iff
  rw [hbest, List.mem_filterMap]
  simp only [List.mem_filterMap, forall_exists_index, and_imp]
  constructor
  · rintro ⟨hmem, hall⟩
    exact ⟨hmem, fun item hitem s hs => hall s item hitem hs⟩
  · rintro ⟨hmem, hall⟩
    exact ⟨hmem, fun s item hitem hs => hall item hitem s hs⟩

theorem targetRank_eq_none_iff : targetRank request ranker items = none ↔
    ∀ item ∈ items, ranker (fieldValue item request.fieldName) = none := by
  have hnone : targetRank request ranker items = none ↔
      items.filterMap (fun item => ranker (fieldValue item request.fieldName)) = [] := by
    unfold targetRank
    dsimp only
    split
    · exact List.max?_eq_none_iff
    · exact List.min?_eq_none_iff
  rw [hnone, List.filterMap_eq_nil_iff]

open Classical in
/-- The ranked items are those of extremal rank, in their order. -/
theorem rankedItems_eq : rankedItems items request ranker =
    items.filter (fun item => decide (IsExtremal request ranker items item)) := by
  rw [rankedItems_eq_match]
  cases htarget : targetRank request ranker items with
  | none =>
    rw [targetRank_eq_none_iff] at htarget
    symm
    rw [List.filter_eq_nil_iff]
    intro item hitem hextremal
    obtain ⟨r, hr, -⟩ := of_decide_eq_true hextremal
    rw [htarget item hitem] at hr
    cases hr
  | some target =>
    obtain ⟨⟨best, hbest, hbestRank⟩, hall⟩ := targetRank_eq_some_iff.mp htarget
    apply List.filter_congr
    intro item hitem
    rw [decide_eq_decide]
    constructor
    · exact fun hrank => ⟨target, hrank, hall⟩
    · rintro ⟨r, hr, hothers⟩
      have hle := hothers best hbest target hbestRank
      have hge := hall item hitem r hr
      have heq : r = target := by
        by_cases hmaximum : request.operation = .maximum
        · rw [if_pos hmaximum] at hle hge
          omega
        · rw [if_neg hmaximum] at hle hge
          omega
      rw [← heq]
      exact hr

theorem rankedItems_eq_nil_iff : rankedItems items request ranker = [] ↔
    ∀ item ∈ items, ranker (fieldValue item request.fieldName) = none := by
  rw [← targetRank_eq_none_iff, rankedItems_eq_match]
  cases htarget : targetRank request ranker items with
  | none => exact iff_of_true rfl rfl
  | some target =>
    obtain ⟨⟨best, hbest, hrank⟩, -⟩ := targetRank_eq_some_iff.mp htarget
    apply iff_of_false
    · intro hnil
      exact List.filter_eq_nil_iff.mp hnil best hbest (decide_eq_true hrank)
    · intro hnone
      cases hnone

/-! ## The outcome -/

theorem firstField_fieldValue (item : EvidenceItem) :
    FirstField item fieldName (fieldValue item fieldName) := by
  unfold fieldValue
  cases hfield : item.fields.find? (fun field => field.name = fieldName) with
  | none =>
    rw [List.find?_eq_none] at hfield
    exact Or.inl ⟨fun field hmem hname => hfield field hmem (decide_eq_true hname), rfl⟩
  | some field =>
    obtain ⟨hname, before, after, hfields, hbefore⟩ := List.find?_eq_some_iff_append.mp hfield
    refine Or.inr ⟨before, field, after, hfields, ?_, of_decide_eq_true hname, rfl⟩
    intro other hother
    simpa using hbefore other hother

/-- The status of some values, of which there are any. -/
theorem status_iff {values : List FieldValue} (hsome : values ≠ []) {status : FieldQueryStatus}
    (hstatus : status = if values.countP (fun value => value.value ≠ .none) = values.length
      then .complete
      else if values.countP (fun value => value.value ≠ .none) ≠ 0 then .partialValues
        else .empty) :
    (status = .complete ↔ ∀ value ∈ values, value.value ≠ .none) ∧
    (status = .empty ↔ ∀ value ∈ values, value.value = .none) ∧
    (status = .partialValues ↔
      (∃ value ∈ values, value.value ≠ .none) ∧ ∃ value ∈ values, value.value = .none) := by
  have hall : values.countP (fun value => value.value ≠ .none) = values.length ↔
      ∀ value ∈ values, value.value ≠ .none := by
    rw [List.countP_eq_length]
    simp
  have hnone : values.countP (fun value => value.value ≠ .none) = 0 ↔
      ∀ value ∈ values, value.value = .none := by
    rw [List.countP_eq_zero]
    simp
  by_cases hcomplete : ∀ value ∈ values, value.value ≠ .none
  · rw [if_pos (hall.mpr hcomplete)] at hstatus
    obtain ⟨first, hfirst⟩ := List.exists_mem_of_ne_nil values hsome
    refine ⟨iff_of_true hstatus hcomplete, iff_of_false ?_ ?_, iff_of_false ?_ ?_⟩
    · rw [hstatus]
      simp
    · exact fun hempty => hcomplete first hfirst (hempty first hfirst)
    · rw [hstatus]
      simp
    · rintro ⟨-, value, hvalue, habsent⟩
      exact hcomplete value hvalue habsent
  · rw [if_neg (fun h => hcomplete (hall.mp h))] at hstatus
    by_cases hempty : ∀ value ∈ values, value.value = .none
    · rw [if_neg (fun h => h (hnone.mpr hempty))] at hstatus
      refine ⟨iff_of_false ?_ hcomplete, iff_of_true hstatus hempty, iff_of_false ?_ ?_⟩
      · rw [hstatus]
        simp
      · rw [hstatus]
        simp
      · rintro ⟨⟨value, hvalue, hpresent⟩, -⟩
        exact hpresent (hempty value hvalue)
    · rw [if_pos (fun h => hempty (hnone.mp h))] at hstatus
      refine ⟨iff_of_false ?_ hcomplete, iff_of_false ?_ hempty, iff_of_true hstatus ⟨?_, ?_⟩⟩
      · rw [hstatus]
        simp
      · rw [hstatus]
        simp
      · push Not at hempty
        exact hempty
      · push Not at hcomplete
        exact hcomplete

theorem executed_execute {reference : ResolvedReference} (hitems : reference.items ≠ []) :
    Executed reference (FieldQueryExecutor.execute reference) := by
  have hsome : (FieldQueryExecutor.execute reference).values ≠ [] :=
    fun hnil => hitems (List.map_eq_nil_iff.mp hnil)
  obtain ⟨hcomplete, hempty, hpartial⟩ := status_iff hsome rfl
  refine ⟨rfl, ?_, hcomplete, hempty, hpartial⟩
  unfold FieldQueryExecutor.execute
  dsimp only
  rw [List.forall₂_map_right_iff, List.forall₂_same]
  exact fun item _ => ⟨rfl, rfl, rfl, firstField_fieldValue item⟩

/-- What becomes of a request on the items of a collection. -/
theorem resolveRequest_of_collection {resolver : ReferenceResolver}
    {collection : CollectionEvidence}
    (hcollection : latestCollection snapshots = some collection) (hitems : collection.items ≠ []) :
    Resolution resolver request collection (resolver.resolveRequest request snapshots) ∧
      ∀ reference, (resolver.resolveRequest request snapshots).reference = some reference →
        reference.items ≠ [] := by
  unfold ReferenceResolver.resolveRequest
  rw [hcollection]
  dsimp only
  by_cases hselected : selectItems collection.items request.ordinal = []
  · rw [hselected]
    exact ⟨.noItem (fun selected => not_selects hitems hselected), fun reference h => by cases h⟩
  · have hselects := selects_selectItems hselected
    rw [if_neg (by simpa using hselected)]
    by_cases hfield : request.operation = .field
    · rw [if_neg (fun h => h hfield)]
      refine ⟨.all _ hselects hfield, ?_⟩
      intro reference h
      cases h
      exact hselected
    · rw [if_pos hfield]
      cases hranker : resolver.rankers.get? request.fieldName with
      | none => exact ⟨.noRanker hfield hranker, fun reference h => by cases h⟩
      | some ranker =>
        dsimp only
        by_cases hranked :
          rankedItems (selectItems collection.items request.ordinal) request ranker = []
        · rw [hranked]
          refine ⟨.unrankable _ ranker hselects hfield hranker ?_, fun reference h => by cases h⟩
          exact rankedItems_eq_nil_iff.mp hranked
        · rw [if_neg (by simpa using hranked)]
          constructor
          · rw [rankedItems_eq]
            refine .extremal _ ranker hselects hfield hranker ?_
            by_contra hnone
            push Not at hnone
            apply hranked
            apply rankedItems_eq_nil_iff.mpr
            intro item hitem
            simpa using hnone item hitem
          · intro reference h
            cases h
            exact hranked

/-- A query is no reference, or is answered from the latest collection as `Resolution` says, with
one value for each of the items that it is about. -/
theorem resolve_exactly (resolver : ReferenceResolver) (query : String)
    (snapshots : List ConversationEvidenceSnapshot) :
    (∃ e, resolver.parser query = .error e ∧ resolver.resolve query snapshots = .error e) ∨
    (resolver.parser query = .ok none ∧
      resolver.resolve query snapshots = .ok ⟨.noReference, none⟩) ∨
    ∃ request, resolver.parser query = .ok (some request) ∧
      ((∀ collection, ¬ IsLatestCollection snapshots collection) ∧
          resolver.resolve query snapshots = .ok ⟨.noEvidence, none⟩ ∨
        ∃ collection outcome, IsLatestCollection snapshots collection ∧
          resolver.resolve query snapshots = .ok outcome ∧
          Resolution resolver request collection outcome ∧
          ∀ reference, outcome.reference = some reference →
            Executed reference (FieldQueryExecutor.execute reference)) := by
  unfold ReferenceResolver.resolve
  cases hparsed : resolver.parser query with
  | error e => exact Or.inl ⟨e, rfl, rfl⟩
  | ok parsed =>
    right
    cases parsed with
    | none => exact Or.inl ⟨rfl, rfl⟩
    | some request =>
      right
      refine ⟨request, rfl, ?_⟩
      cases hcollection : latestCollection snapshots with
      | none =>
        left
        refine ⟨not_isLatestCollection hcollection, ?_⟩
        show Except.ok (resolver.resolveRequest request snapshots) = _
        unfold ReferenceResolver.resolveRequest
        rw [hcollection]
      | some collection =>
        right
        have hlatest := isLatestCollection_of_eq_some hcollection
        obtain ⟨hresolution, hitems⟩ := resolveRequest_of_collection hcollection hlatest.1
        exact ⟨collection, resolver.resolveRequest request snapshots, hlatest, rfl, hresolution,
          fun reference hreference => executed_execute (hitems reference hreference)⟩

end

end HotAirBalloon.Agent
