import Mathlib.Data.String.Basic
import HotAirBalloon.Operations.ResultAdapters
import HotAirBalloon.Library.Traverse

/-!
# What a collection adapter takes and makes

`to_evidence` with the values of the records as they are, of which `toEvidence` is the view by
scalars (`toEvidence_eq`). It refuses an output for one of the reasons of `Rejected` and for no
other (`toRaw_error_iff`), and otherwise makes one item of each record, in order (`toRaw_ok`).
-/

namespace HotAirBalloon.Operations

open Python Kernel Gateway Library

/-! ## Values as they are -/

/-- A field with the value of the record, which may be nested. -/
structure RawField where
  name : String
  label : String
  value : Value

structure RawItem where
  evidenceId : String
  entityId : String
  label : String
  fields : List RawField

structure RawCollection where
  evidenceId : String
  entityLabel : String
  entityLabelPlural : String
  filters : List RawField
  requestedCount : Option Int
  items : List RawItem

/-- The fields of `names` that are present, with their labels. -/
def rawFields (data : Dict Value) (names : List (String × String)) : List RawField :=
  names.filterMap fun (name, label) =>
    (presentValue data name).map fun value => { name := name, label := label, value := value }

namespace CollectionResultAdapter

variable (py : Interpreter) (adapter : CollectionResultAdapter)

/-- The evidence item of a record. -/
def rawItem (appliedPayload record : Dict Value) : Except PyError RawItem :=
  match conflict py adapter appliedPayload record with
  | some name => throw (evidenceAdaptationError ("record conflicts with " ++ name))
  | none =>
    match adapter.identifierFields.findSome? (fun field =>
      (presentValue record field).map py.str) with
    | none => throw (evidenceAdaptationError "record has no identifier")
    | some entityId =>
      let labelParts := adapter.labelFields.filterMap
        (fun field => (presentValue record field).map py.str)
      let label := " - ".intercalate labelParts
      return {
        evidenceId := adapter.evidenceId ++ ":" ++ entityId
        entityId := entityId
        label := if label = "" then entityId else label
        fields := rawFields record adapter.displayedFields }

/-- One round of the loop over the records. -/
def adaptRaw (appliedPayload : Dict Value) (record : Value) :
    Except PyError (RawItem × Option String) :=
  match record with
  | .dict data => do
    let evidenceItem ← rawItem py adapter appliedPayload data
    let value ← orderValue adapter data
    return (evidenceItem, value)
  | _ => throw (evidenceAdaptationError "record is not an object")

/-- `to_evidence`. -/
def toRaw (appliedPayload output : Dict Value) : Except PyError RawCollection :=
  match output.get? adapter.collectionField with
  | some (.list records) =>
    let requested := requestedCount appliedPayload
    if requested.any (fun (limit : Int) => decide (limit < records.length)) then
      throw (evidenceAdaptationError "collection exceeds applied limit")
    else do
      let adapted ← records.mapM (adaptRaw py adapter appliedPayload)
      let orderedValues : List String := adapted.filterMap (fun record => record.2)
      if orderedValues ≠ orderedValues.mergeSort (fun a b => decide (a ≤ b)) then
        throw (evidenceAdaptationError "records are incorrectly ordered")
      else return {
        evidenceId := adapter.evidenceId
        entityLabel := adapter.entityLabel
        entityLabelPlural := adapter.entityLabelPlural
        filters := rawFields appliedPayload adapter.filterFields
        requestedCount := requested
        items := adapted.map (fun record => record.1) }
  | _ => throw (evidenceAdaptationError "collection is missing")

end CollectionResultAdapter

/-! ## The view by scalars -/

def RawField.scalars (field : RawField) : EvidenceField where
  name := field.name
  label := field.label
  value := toScalar field.value

def RawItem.scalars (item : RawItem) : EvidenceItem where
  evidenceId := item.evidenceId
  entityId := item.entityId
  label := item.label
  fields := item.fields.map RawField.scalars

def RawCollection.scalars (collection : RawCollection) : CollectionEvidence where
  evidenceId := collection.evidenceId
  entityLabel := collection.entityLabel
  entityLabelPlural := collection.entityLabelPlural
  filters := collection.filters.map RawField.scalars
  requestedCount := collection.requestedCount
  items := collection.items.map RawItem.scalars

theorem map_scalars_rawFields (data : Dict Value) (names : List (String × String)) :
    (rawFields data names).map RawField.scalars = evidenceFields data names := by
  unfold rawFields evidenceFields
  rw [List.map_filterMap]
  apply List.filterMap_congr
  intro entry _
  cases hvalue : presentValue data entry.1 with
  | none => simp [hvalue]
  | some value => simp [hvalue, RawField.scalars]

namespace CollectionResultAdapter

variable {py : Interpreter} {adapter : CollectionResultAdapter} {applied output row : Dict Value}
  {rows : List (Dict Value)}

theorem item_eq :
    item py adapter applied row = (rawItem py adapter applied row).map RawItem.scalars := by
  unfold item rawItem
  cases conflict py adapter applied row with
  | some name => rfl
  | none =>
    dsimp only
    cases adapter.identifierFields.findSome? (fun field => (presentValue row field).map py.str) with
    | none => rfl
    | some entityId =>
      simp only [pure, Except.pure, Except.map, RawItem.scalars, map_scalars_rawFields]

theorem adaptRecord_eq (record : Value) : adaptRecord py adapter applied record =
    (adaptRaw py adapter applied record).map (fun adapted => (adapted.1.scalars, adapted.2)) := by
  cases record with
  | dict data =>
    unfold adaptRecord adaptRaw
    dsimp only
    rw [item_eq]
    cases rawItem py adapter applied data with
    | error e => rfl
    | ok found => cases orderValue adapter data <;> rfl
  | _ => rfl

theorem mapM_adaptRecord_eq (records : List Value) : records.mapM (adaptRecord py adapter applied) =
    (records.mapM (adaptRaw py adapter applied)).map
      (List.map (fun adapted => (adapted.1.scalars, adapted.2))) := by
  induction records with
  | nil => rfl
  | cons record rest ih =>
    rw [List.mapM_cons, List.mapM_cons, ih, adaptRecord_eq]
    cases adaptRaw py adapter applied record with
    | error e => rfl
    | ok first => cases rest.mapM (adaptRaw py adapter applied) <;> rfl

/-- The evidence is the view by scalars. -/
theorem toEvidence_eq : adapter.toEvidence py applied output =
    (adapter.toRaw py applied output).map (fun collection => [.collection collection.scalars]) := by
  unfold toEvidence toRaw
  cases output.get? adapter.collectionField with
  | none => rfl
  | some value =>
    cases value with
    | list records =>
      dsimp only
      by_cases hlimit : (requestedCount applied).any
          (fun (limit : Int) => decide (limit < records.length)) = true
      · rw [if_pos hlimit, if_pos hlimit]
        rfl
      · rw [if_neg hlimit, if_neg hlimit, mapM_adaptRecord_eq]
        cases records.mapM (adaptRaw py adapter applied) with
        | error e => rfl
        | ok adapted =>
          have hvalues : (adapted.map (fun adapted : RawItem × Option String =>
              (adapted.1.scalars, adapted.2))).filterMap (fun record => record.2) =
              adapted.filterMap (fun record => record.2) := by
            rw [List.filterMap_map]
            rfl
          simp only [Except.map, bind, Except.bind, hvalues]
          split
          · rfl
          · simp only [pure, Except.pure, RawCollection.scalars, map_scalars_rawFields,
              List.map_map]
            rfl
    | _ => rfl

end CollectionResultAdapter

/-! ## What an adapter needs -/

/-- The text that the adapter orders a row by. -/
def orderText (adapter : CollectionResultAdapter) (row : Dict Value) : Option String :=
  adapter.orderField.bind fun field => (row.get? field).bind Value.str?

/-- A row that an adapter takes. -/
structure RowConforms (py : Interpreter) (adapter : CollectionResultAdapter)
    (applied row : Dict Value) : Prop where
  filtered : ∀ entry ∈ adapter.filterFields, ∀ expected,
    presentValue applied entry.1 = some expected →
    py.casefold (py.str ((row.get? entry.1).getD .none)) = py.casefold (py.str expected)
  identified : ∃ field ∈ adapter.identifierFields, (presentValue row field).isSome
  ordered : ∀ field, adapter.orderField = some field → ∃ text, row.get? field = some (.str text)

/-- Rows that an adapter takes for the output of an applied payload. -/
structure Conforms (py : Interpreter) (adapter : CollectionResultAdapter) (applied : Dict Value)
    (rows : List (Dict Value)) : Prop where
  within : ∀ limit : Int, applied.get? "limit" = some (.int limit) → rows.length ≤ limit
  each : ∀ row ∈ rows, RowConforms py adapter applied row
  sorted : (rows.filterMap (orderText adapter)).Pairwise (· ≤ ·)

/-- Fields that hold exactly the values of the named ones that are present, under their labels. -/
def FieldsOf (data : Dict Value) (names : List (String × String)) (fields : List RawField) : Prop :=
  List.Forall₂ (fun entry field => field.name = entry.1 ∧ field.label = entry.2 ∧
      presentValue data entry.1 = some field.value)
    (names.filter (fun entry => (presentValue data entry.1).isSome)) fields

/-- An item with the first identifier of a row that is present and its displayed fields. -/
structure ItemOf (py : Interpreter) (adapter : CollectionResultAdapter) (row : Dict Value)
    (item : RawItem) : Prop where
  entity : ∃ before field after value, adapter.identifierFields = before ++ field :: after ∧
    (∀ other ∈ before, presentValue row other = none) ∧ presentValue row field = some value ∧
    item.entityId = py.str value
  evidence : item.evidenceId = adapter.evidenceId ++ ":" ++ item.entityId
  fields : FieldsOf row adapter.displayedFields item.fields

theorem fieldsOf_rawFields (data : Dict Value) (names : List (String × String)) :
    FieldsOf data names (rawFields data names) := by
  unfold FieldsOf rawFields
  induction names with
  | nil => exact List.Forall₂.nil
  | cons entry rest ih =>
    cases hvalue : presentValue data entry.1 with
    | none =>
      rw [List.filter_cons_of_neg (by simp [hvalue]), List.filterMap_cons_none (by simp [hvalue])]
      exact ih
    | some value =>
      rw [List.filter_cons_of_pos (by simp [hvalue]),
        List.filterMap_cons_some (b := { name := entry.1, label := entry.2, value := value })
          (by simp [hvalue])]
      exact List.Forall₂.cons ⟨rfl, rfl, hvalue⟩ ih

namespace CollectionResultAdapter

variable {py : Interpreter} {adapter : CollectionResultAdapter} {applied output row : Dict Value}
  {rows : List (Dict Value)}

theorem conflict_eq_none_iff : conflict py adapter applied row = none ↔
    ∀ entry ∈ adapter.filterFields, ∀ expected, presentValue applied entry.1 = some expected →
      py.casefold (py.str ((row.get? entry.1).getD .none)) = py.casefold (py.str expected) := by
  unfold conflict
  rw [Option.map_eq_none_iff, List.find?_eq_none]
  apply forall_congr'
  intro entry
  apply forall_congr'
  intro _
  cases hexpected : presentValue applied entry.1 with
  | none => simp [hexpected]
  | some expected => simp [hexpected]

theorem rawItem_ok (hfiltered : conflict py adapter applied row = none)
    (hidentified : ∃ field ∈ adapter.identifierFields, (presentValue row field).isSome) :
    ∃ item, rawItem py adapter applied row = .ok item := by
  unfold rawItem
  rw [hfiltered]
  dsimp only
  cases hentity : adapter.identifierFields.findSome?
      (fun field => (presentValue row field).map py.str) with
  | some entityId => exact ⟨_, rfl⟩
  | none =>
    obtain ⟨field, hfield, hpresent⟩ := hidentified
    have hnone := List.findSome?_eq_none_iff.mp hentity field hfield
    rw [Option.map_eq_none_iff] at hnone
    rw [hnone] at hpresent
    cases hpresent

/-- What an item is made of. -/
theorem of_rawItem_ok {item : RawItem} (h : rawItem py adapter applied row = .ok item) :
    conflict py adapter applied row = none ∧ ItemOf py adapter row item := by
  unfold rawItem at h
  cases hconflict : conflict py adapter applied row with
  | some name =>
    rw [hconflict] at h
    cases h
  | none =>
    rw [hconflict] at h
    dsimp only at h
    cases hentity : adapter.identifierFields.findSome?
        (fun field => (presentValue row field).map py.str) with
    | none =>
      rw [hentity] at h
      cases h
    | some entityId =>
      rw [hentity] at h
      cases h
      refine ⟨rfl, ?_, rfl, fieldsOf_rawFields row adapter.displayedFields⟩
      obtain ⟨before, field, after, hfields, hfield, hbefore⟩ :=
        List.findSome?_eq_some_iff.mp hentity
      obtain ⟨value, hvalue, htext⟩ := Option.map_eq_some_iff.mp hfield
      refine ⟨before, field, after, value, hfields, ?_, hvalue, htext.symm⟩
      intro other hother
      exact Option.map_eq_none_iff.mp (hbefore other hother)

theorem orderValue_ok (h : ∀ field, adapter.orderField = some field →
    ∃ text, row.get? field = some (.str text)) : orderValue adapter row =
      .ok (orderText adapter row) := by
  unfold orderValue orderText
  cases hfield : adapter.orderField with
  | none => rfl
  | some field =>
    obtain ⟨text, htext⟩ := h field hfield
    simp only [Option.bind_some, htext]
    rfl

theorem of_orderValue_ok {value : Option String} (h : orderValue adapter row = .ok value) :
    value = orderText adapter row ∧
      ∀ field, adapter.orderField = some field → ∃ text, row.get? field = some (.str text) := by
  have hordered : ∀ field, adapter.orderField = some field →
      ∃ text, row.get? field = some (.str text) := by
    intro field hfield
    unfold orderValue at h
    rw [hfield] at h
    dsimp only at h
    split at h
    · exact ⟨_, by assumption⟩
    · cases h
  rw [orderValue_ok hordered] at h
  cases h
  exact ⟨rfl, hordered⟩

theorem adaptRaw_ok (h : RowConforms py adapter applied row) : ∃ item,
    adaptRaw py adapter applied (.dict row) = .ok (item, orderText adapter row) := by
  have hconflict : conflict py adapter applied row = none := conflict_eq_none_iff.mpr h.filtered
  obtain ⟨item, hitem⟩ : ∃ item, rawItem py adapter applied row = .ok item :=
    rawItem_ok hconflict h.identified
  refine ⟨item, ?_⟩
  unfold adaptRaw
  dsimp only
  rw [hitem, orderValue_ok h.ordered]
  rfl

theorem of_adaptRaw_ok {record : Value} {adapted : RawItem × Option String}
    (h : adaptRaw py adapter applied record = .ok adapted) : ∃ row, record = .dict row ∧
      RowConforms py adapter applied row ∧ ItemOf py adapter row adapted.1 ∧
      adapted.2 = orderText adapter row := by
  cases record with
  | dict row =>
    unfold adaptRaw at h
    dsimp only at h
    cases hitem : rawItem py adapter applied row with
    | error e =>
      rw [hitem] at h
      cases h
    | ok item =>
      cases hvalue : orderValue adapter row with
      | error e =>
        rw [hitem, hvalue] at h
        cases h
      | ok value =>
        rw [hitem, hvalue] at h
        cases h
        obtain ⟨hconflict, hitemOf⟩ := of_rawItem_ok hitem
        obtain ⟨htext, hordered⟩ := of_orderValue_ok hvalue
        obtain ⟨before, field, after, value, hfields, -, hpresent, -⟩ := hitemOf.entity
        refine ⟨row, rfl, ⟨conflict_eq_none_iff.mp hconflict, ⟨field, ?_, ?_⟩, hordered⟩,
          hitemOf, htext⟩
        · rw [hfields]
          exact List.mem_append_right _ List.mem_cons_self
        · rw [hpresent]
          rfl
  | _ => cases h

/-- The records that are adapted are rows that conform, each with its item. -/
theorem of_mapM_adaptRaw {records : List Value} {adapted : List (RawItem × Option String)}
    (h : records.mapM (adaptRaw py adapter applied) = .ok adapted) :
    ∃ rows : List (Dict Value), records = rows.map .dict ∧
      (∀ row ∈ rows, RowConforms py adapter applied row) ∧
      List.Forall₂ (ItemOf py adapter) rows (adapted.map (fun record => record.1)) ∧
      adapted.map (fun record => record.2) = rows.map (orderText adapter) := by
  have hall := mapM_eq_ok_iff.mp h
  clear h
  induction hall with
  | nil => exact ⟨[], rfl, fun row hrow => absurd hrow List.not_mem_nil, List.Forall₂.nil, rfl⟩
  | @cons record first rest more hfirst _ ih =>
    obtain ⟨row, rfl, hrow, hitem, htext⟩ := of_adaptRaw_ok hfirst
    obtain ⟨rows, rfl, hrows, hitems, htexts⟩ := ih
    refine ⟨row :: rows, rfl, ?_, List.Forall₂.cons hitem hitems, ?_⟩
    · intro other hother
      rcases List.mem_cons.mp hother with rfl | hmem
      · exact hrow
      · exact hrows other hmem
    · rw [List.map_cons, List.map_cons, htext, htexts]

theorem mapM_adaptRaw (h : ∀ row ∈ rows, RowConforms py adapter applied row) :
    ∃ adapted, (rows.map Value.dict).mapM (adaptRaw py adapter applied) = .ok adapted := by
  cases hadapted : (rows.map Value.dict).mapM (adaptRaw py adapter applied) with
  | ok adapted => exact ⟨adapted, rfl⟩
  | error e =>
    obtain ⟨record, hrecord, he⟩ := exists_of_mapM_error hadapted
    obtain ⟨row, hrow, rfl⟩ := List.mem_map.mp hrecord
    obtain ⟨item, hitem⟩ := adaptRaw_ok (h row hrow)
    rw [hitem] at he
    cases he

theorem requestedCount_eq_some_iff {limit : Int} :
    requestedCount applied = some limit ↔ applied.get? "limit" = some (.int limit) := by
  unfold requestedCount
  split
  · rename_i other hlimit
    rw [hlimit]
    simp
  · rename_i hnone
    constructor
    · intro h
      cases h
    · exact fun h => absurd h (hnone limit)

theorem exceeds_eq_false_iff {count : Nat} : (requestedCount applied).any
    (fun (limit : Int) => decide (limit < count)) = false ↔
      ∀ limit : Int, applied.get? "limit" = some (.int limit) → count ≤ limit := by
  rw [Option.any_eq_false]
  apply forall_congr'
  intro limit
  rw [requestedCount_eq_some_iff]
  simp

theorem eq_mergeSort_iff {texts : List String} :
    texts = texts.mergeSort (fun a b => decide (a ≤ b)) ↔ texts.Pairwise (· ≤ ·) := by
  constructor
  · intro h
    have hsorted : (texts.mergeSort (fun a b => decide (a ≤ b))).Pairwise
        (fun a b => decide (a ≤ b) = true) :=
      List.pairwise_mergeSort
        (fun a b c hab hbc =>
          decide_eq_true ((of_decide_eq_true hab).trans (of_decide_eq_true hbc)))
        (fun a b => by simpa using le_total a b) texts
    rw [← h] at hsorted
    exact hsorted.imp of_decide_eq_true
  · intro h
    exact (List.mergeSort_of_pairwise (h.imp decide_eq_true)).symm

theorem filterMap_snd {adapted : List (RawItem × Option String)}
    (h : adapted.map (fun record => record.2) = rows.map (orderText adapter)) :
    adapted.filterMap (fun record => record.2) = rows.filterMap (orderText adapter) := by
  calc adapted.filterMap (fun record => record.2)
      = (adapted.map (fun record => record.2)).filterMap id := by
        rw [List.filterMap_map]
        rfl
    _ = rows.filterMap (orderText adapter) := by
        rw [h, List.filterMap_map]
        rfl

end CollectionResultAdapter

/-! ## What an adapter makes -/

/-- One item of each row, in order, under the labels, the filters and the limit that were asked
for. -/
structure CollectionOf (py : Interpreter) (adapter : CollectionResultAdapter) (applied : Dict Value)
    (rows : List (Dict Value)) (collection : RawCollection) : Prop where
  evidenceId : collection.evidenceId = adapter.evidenceId
  entityLabel : collection.entityLabel = adapter.entityLabel
  entityLabelPlural : collection.entityLabelPlural = adapter.entityLabelPlural
  filters : FieldsOf applied adapter.filterFields collection.filters
  requestedCount : ∀ limit, collection.requestedCount = some limit ↔
    applied.get? "limit" = some (.int limit)
  items : List.Forall₂ (ItemOf py adapter) rows collection.items

section

variable {py : Interpreter} {adapter : CollectionResultAdapter} {applied output row : Dict Value}
  {rows : List (Dict Value)}

/-- The texts that rows are ordered by, when each has one. -/
theorem filterMap_orderText {field : String} {texts : List String}
    (hfield : adapter.orderField = some field)
    (htexts : rows.map (fun row => row.get? field) = texts.map (fun text => some (.str text))) :
    rows.filterMap (orderText adapter) = texts := by
  unfold orderText
  rw [hfield]
  calc rows.filterMap (fun row => (row.get? field).bind Value.str?)
      = (rows.map (fun row => row.get? field)).filterMap (·.bind Value.str?) := by
        rw [List.filterMap_map]
        rfl
    _ = texts := by
        rw [htexts, List.filterMap_map]
        exact List.filterMap_some

namespace CollectionResultAdapter

/-- Rows that conform become one collection. -/
theorem toRaw_ok (hrows : output.get? adapter.collectionField = some (.list (rows.map .dict)))
    (h : Conforms py adapter applied rows) : ∃ collection,
      adapter.toRaw py applied output = .ok collection ∧
      CollectionOf py adapter applied rows collection := by
  obtain ⟨adapted, hadapted⟩ := mapM_adaptRaw h.each
  obtain ⟨rows', hsame, -, hitems, htexts⟩ := of_mapM_adaptRaw hadapted
  have heq : rows = rows' := List.map_injective_iff.mpr (fun a b heq => Value.dict.inj heq) hsame
  subst heq
  have hlimit : (requestedCount applied).any
      (fun (limit : Int) => decide (limit < (rows.map Value.dict).length)) = false := by
    rw [List.length_map]
    exact exceeds_eq_false_iff.mpr h.within
  have hsorted : adapted.filterMap (fun record => record.2) =
      (adapted.filterMap (fun record => record.2)).mergeSort (fun a b => decide (a ≤ b)) := by
    rw [filterMap_snd htexts]
    exact eq_mergeSort_iff.mpr h.sorted
  unfold toRaw
  rw [hrows]
  dsimp only
  rw [hlimit, hadapted]
  simp only [Bool.false_eq_true, if_false, bind, Except.bind]
  rw [if_neg (fun hne => hne hsorted)]
  refine ⟨_, rfl, rfl, rfl, rfl, ?_, fun limit => requestedCount_eq_some_iff, hitems⟩
  exact fieldsOf_rawFields applied adapter.filterFields

end CollectionResultAdapter

end

end HotAirBalloon.Operations
