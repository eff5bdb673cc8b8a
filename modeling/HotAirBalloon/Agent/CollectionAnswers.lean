import HotAirBalloon.Agent.ResponseComposer
import HotAirBalloon.Operations.RawEvidence

/-!
# From the records of a tool to the answer

What the composer renders of a collection whose values are those of the records: their count, one
numbered row for each, and a note when there are fewer than were asked for. Of a collection without
nested values it is what `collection` renders (`collection_scalars`).
-/

namespace HotAirBalloon.Agent

open Python Kernel Evidence Operations CollectionResultAdapter

namespace FinalResponseComposer

section

variable (composer : FinalResponseComposer)

/-- `f"{field.label}: {field.value}"`. -/
def rawFieldText (field : RawField) : String := field.label ++ ": " ++ composer.py.str field.value

/-- A row of the list of items. -/
def rawRow (index : Nat) (item : RawItem) : String :=
  toString index ++ ". " ++ item.label ++
    if item.fields.isEmpty then ""
    else " (" ++ ", ".intercalate (item.fields.map composer.rawFieldText) ++ ")"

/-- The filters, in brackets. -/
def rawSuffix (block : RawCollection) : String :=
  let filters := ", ".intercalate (block.filters.map composer.rawFieldText)
  if filters = "" then "" else " (" ++ filters ++ ")"

/-- `_collection`. -/
def rawCollection (block : RawCollection) : String :=
  let count := block.items.length
  let label := if count = 1 then block.entityLabel else block.entityLabelPlural
  let suffix := composer.rawSuffix block
  if count = 0 then "No " ++ block.entityLabelPlural ++ " found" ++ suffix ++ "."
  else
    let header := "Found " ++ toString count ++ " " ++ label ++ suffix ++
      match block.requestedCount with
      | some requested =>
        if (count : Int) < requested then ", fewer than the " ++ toString requested ++ " requested"
        else ""
      | none => ""
    let rows := (block.items.zipIdx 1).map fun (item, index) => composer.rawRow index item
    header ++ ":\n" ++ "\n".intercalate rows

end

variable {composer : FinalResponseComposer}

/-! ## Values without nesting -/

/-- A value that evidence scalars hold as it is. -/
def IsScalar (value : Value) : Prop := scalarValue (toScalar value) = value

theorem fieldText_scalars {field : RawField} (h : IsScalar field.value) :
    composer.fieldText field.scalars = composer.rawFieldText field := by
  unfold fieldText rawFieldText
  show field.label ++ ": " ++ composer.py.str (scalarValue (toScalar field.value)) = _
  rw [h]

theorem map_fieldText_scalars {fields : List RawField}
    (h : ∀ field ∈ fields, IsScalar field.value) :
    (fields.map RawField.scalars).map composer.fieldText = fields.map composer.rawFieldText := by
  rw [List.map_map]
  exact List.map_congr_left (fun field hfield => fieldText_scalars (h field hfield))

theorem itemRow_scalars {index : Nat} {item : RawItem}
    (h : ∀ field ∈ item.fields, IsScalar field.value) :
    composer.itemRow index item.scalars = composer.rawRow index item := by
  unfold itemRow rawRow RawItem.scalars
  dsimp only
  rw [map_fieldText_scalars h]
  cases item.fields <;> rfl

/-- The composer renders scalars as the values that they hold. -/
theorem collection_scalars {block : RawCollection}
    (hfilters : ∀ field ∈ block.filters, IsScalar field.value)
    (hitems : ∀ item ∈ block.items, ∀ field ∈ item.fields, IsScalar field.value) :
    composer.collection block.scalars = composer.rawCollection block := by
  have hrows : ((block.items.map RawItem.scalars).zipIdx 1).map
      (fun entry => composer.itemRow entry.2 entry.1) =
        (block.items.zipIdx 1).map (fun entry => composer.rawRow entry.2 entry.1) := by
    rw [List.zipIdx_map, List.map_map]
    apply List.map_congr_left
    intro entry hentry
    exact itemRow_scalars (hitems entry.1 (List.fst_mem_of_mem_zipIdx hentry))
  unfold collection rawCollection rawSuffix RawCollection.scalars
  dsimp only
  rw [List.length_map, map_fieldText_scalars hfilters]
  exact hrows ▸ rfl

/-! ## The answer -/

end FinalResponseComposer

end HotAirBalloon.Agent
