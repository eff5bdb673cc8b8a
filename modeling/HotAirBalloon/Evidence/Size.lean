import HotAirBalloon.Evidence.RoundTrip
import HotAirBalloon.Python.JsonSize

/-!
# The size of a snapshot

The bytes that each kind of evidence takes in the JSON text of a snapshot, counted from the texts
in it. `toJson_isOk_iff` says which snapshots `to_json` accepts in these terms.
-/

namespace HotAirBalloon.Evidence

open Python Kernel Json

variable (py : Interpreter)

/-! ## Sizes -/

def scalarSize : EvidenceScalar → Nat
  | .str s => textSize s + 2
  | .int i => (toString i).utf8ByteSize
  | .float x => (floatText py x).utf8ByteSize
  | .bool b => if b then 4 else 5
  | .none => 4

def fieldSize (field : EvidenceField) : Nat :=
  31 + textSize field.name + textSize field.label + scalarSize py field.value

def itemSize (item : EvidenceItem) : Nat :=
  56 + textSize item.evidenceId + textSize item.entityId + textSize item.label +
    joinedSize (item.fields.map (fieldSize py))

def countSize : Option Int → Nat
  | none => 4
  | some i => (toString i).utf8ByteSize

def optionalSize : Option String → Nat
  | none => 4
  | some s => textSize s + 2

def flagSize (b : Bool) : Nat := if b then 4 else 5

def blockSize : EvidenceBlock → Nat
  | .collection block =>
    124 + textSize block.evidenceId + textSize block.entityLabel +
      textSize block.entityLabelPlural + joinedSize (block.filters.map (fieldSize py)) +
      countSize block.requestedCount + joinedSize (block.items.map (itemSize py))
  | .mutation block =>
    117 + textSize block.evidenceId + textSize block.entityLabel + textSize block.entityId +
      optionalSize block.previousState + textSize block.currentState + flagSize block.changed
  | .actionRequired block =>
    67 + textSize block.evidenceId + textSize block.action + textSize block.reason
  | .failure block =>
    71 + textSize block.evidenceId + textSize block.code + textSize block.message +
      flagSize block.retryable

/-- The bytes of the snapshot of some evidence under a tool name. -/
def snapshotSize (toolName : String) (evidence : List EvidenceBlock) : Nat :=
  102 + textSize toolName + joinedSize (evidence.map (blockSize py))

theorem le_joinedSize_map {α : Type} (bound : Nat) (sizeOf : α → Nat) (as : List α)
    (h : ∀ a, bound ≤ sizeOf a) : bound * as.length ≤ joinedSize (as.map sizeOf) := by
  have hsum : bound * as.length ≤ (as.map sizeOf).sum := by
    induction as with
    | nil => simp
    | cons a rest ih =>
      have ha := h a
      rw [List.length_cons, List.map_cons, List.sum_cons, Nat.mul_add, Nat.mul_one]
      omega
  unfold joinedSize
  omega

/-- An item takes at least 56 bytes, so that many items alone are too much. -/
theorem le_snapshotSize_collection (toolName : String) (block : CollectionEvidence) :
    56 * block.items.length ≤ snapshotSize py toolName [.collection block] := by
  have hitems : 56 * block.items.length ≤ joinedSize (block.items.map (itemSize py)) := by
    apply le_joinedSize_map
    intro item
    unfold itemSize
    omega
  have hblock : 56 * block.items.length ≤ blockSize py (.collection block) := by
    simp only [blockSize]
    omega
  unfold snapshotSize joinedSize
  rw [List.map_cons, List.map_nil, List.sum_cons]
  omega

/-! ## Integers -/

def FieldWritable (field : EvidenceField) : Prop :=
  ∀ i, field.value = .int i → WritableInt i

/-- Every integer of a block has a decimal text; only collections have integers. -/
def BlockWritable : EvidenceBlock → Prop
  | .collection block =>
    (∀ field ∈ block.filters, FieldWritable field) ∧
      (∀ i, block.requestedCount = some i → WritableInt i) ∧
      ∀ item ∈ block.items, ∀ field ∈ item.fields, FieldWritable field
  | .mutation _ | .actionRequired _ | .failure _ => True

/-! ## The encoded values -/

theorem itemSizes_map {α : Type} (encode : α → Value) (as : List α) :
    itemSizes py (as.map encode) = as.map (fun a => size py (encode a)) := by
  induction as with
  | nil => rfl
  | cons a rest ih => rw [List.map_cons, List.map_cons, itemSizes, ih]

theorem writableItems_map {α : Type} (encode : α → Value) (as : List α) :
    WritableItems (as.map encode) ↔ ∀ a ∈ as, Writable (encode a) := by
  induction as with
  | nil => simp [WritableItems]
  | cons a rest ih =>
    rw [List.map_cons, WritableItems, ih, List.forall_mem_cons]

theorem size_scalarValue (value : EvidenceScalar) :
    size py (scalarValue value) = scalarSize py value := by
  cases value <;> simp [scalarValue, size, scalarSize]

theorem size_optionalInt (count : Option Int) : size py (optionalInt count) = countSize count := by
  cases count <;> simp [optionalInt, size, countSize]

theorem size_optionalStr (text : Option String) :
    size py (Value.optionalStr text) = optionalSize text := by
  cases text <;> simp [Value.optionalStr, size, optionalSize]

/-- The keys of the encoded evidence. -/
theorem textSize_keys :
    textSize "name" = 4 ∧ textSize "label" = 5 ∧ textSize "value" = 5 ∧
      textSize "evidence_id" = 11 ∧
    textSize "entity_id" = 9 ∧ textSize "fields" = 6 ∧ textSize "type" = 4 ∧
    textSize "collection" = 10 ∧ textSize "entity_label" = 12 ∧
      textSize "entity_label_plural" = 19 ∧
    textSize "filters" = 7 ∧ textSize "requested_count" = 15 ∧ textSize "items" = 5 ∧
    textSize "mutation" = 8 ∧ textSize "previous_state" = 14 ∧ textSize "current_state" = 13 ∧
    textSize "changed" = 7 ∧ textSize "action_required" = 15 ∧ textSize "action" = 6 ∧
    textSize "reason" = 6 ∧ textSize "failure" = 7 ∧ textSize "code" = 4 ∧ textSize "message" = 7 ∧
    textSize "retryable" = 9 ∧ textSize "schema_version" = 14 ∧ textSize "exchange_id" = 11 ∧
    textSize "tool_name" = 9 ∧ textSize "evidence" = 8 := by
  decide

theorem size_serializeField (field : EvidenceField) :
    size py (serializeField field) = fieldSize py field := by
  simp only [serializeField, size, entrySizes, joinedSize, List.sum_cons, List.sum_nil,
    List.length_cons, List.length_nil, textSize_keys, size_scalarValue, fieldSize]
  omega

theorem size_serializeItem (item : EvidenceItem) :
    size py (serializeItem item) = itemSize py item := by
  have hsizes : itemSizes py (item.fields.map serializeField) = item.fields.map (fieldSize py) := by
    simp only [itemSizes_map, size_serializeField]
  rw [serializeItem, size]
  simp only [entrySizes, size, hsizes, textSize_keys, itemSize]
  generalize joinedSize (item.fields.map (fieldSize py)) = fields
  simp only [joinedSize, List.sum_cons, List.sum_nil, List.length_cons, List.length_nil]
  omega

theorem size_serializeBlock (block : EvidenceBlock) :
    size py (serializeBlock block) = blockSize py block := by
  cases block with
  | collection block =>
    have hfilterSizes : itemSizes py (block.filters.map serializeField) =
        block.filters.map (fieldSize py) := by
      simp only [itemSizes_map, size_serializeField]
    have hitemSizes : itemSizes py (block.items.map serializeItem) =
        block.items.map (itemSize py) := by
      simp only [itemSizes_map, size_serializeItem]
    rw [serializeBlock, size]
    simp only [entrySizes, size, hfilterSizes, hitemSizes, size_optionalInt,
      textSize_keys, blockSize]
    generalize joinedSize (block.filters.map (fieldSize py)) = filters
    generalize joinedSize (block.items.map (itemSize py)) = items
    simp only [joinedSize, List.sum_cons, List.sum_nil, List.length_cons, List.length_nil]
    omega
  | mutation block =>
    rw [serializeBlock, size]
    simp only [entrySizes, size_optionalStr, flagSize, textSize_keys, blockSize, size, joinedSize,
      List.sum_cons, List.sum_nil, List.length_cons, List.length_nil]
    omega
  | actionRequired block =>
    rw [serializeBlock, size]
    simp only [entrySizes, textSize_keys, blockSize, size, joinedSize, List.sum_cons, List.sum_nil,
      List.length_cons, List.length_nil]
    omega
  | failure block =>
    rw [serializeBlock, size]
    simp only [entrySizes, flagSize, textSize_keys, blockSize, size, joinedSize, List.sum_cons,
      List.sum_nil, List.length_cons, List.length_nil]
    omega

theorem writable_serializeField (field : EvidenceField) :
    Writable (serializeField field) ↔ FieldWritable field := by
  unfold FieldWritable
  cases h : field.value <;>
    simp [serializeField, scalarValue, Writable, WritableEntries, h]

theorem writable_serializeItem (item : EvidenceItem) :
    Writable (serializeItem item) ↔ ∀ field ∈ item.fields, FieldWritable field := by
  simp [serializeItem, Writable, WritableEntries, writableItems_map, writable_serializeField]

theorem writable_optionalInt (count : Option Int) :
    Writable (optionalInt count) ↔ ∀ i, count = some i → WritableInt i := by
  cases count <;> simp [optionalInt, Writable]

theorem writable_serializeBlock (block : EvidenceBlock) :
    Writable (serializeBlock block) ↔ BlockWritable block := by
  cases block with
  | collection block =>
    simp [serializeBlock, BlockWritable, Writable, WritableEntries, writableItems_map,
      writable_serializeField, writable_serializeItem, writable_optionalInt]
  | mutation block =>
    cases h : block.previousState <;>
      simp [serializeBlock, BlockWritable, Writable, WritableEntries, Value.optionalStr, h]
  | actionRequired block => simp [serializeBlock, BlockWritable, Writable, WritableEntries]
  | failure block => simp [serializeBlock, BlockWritable, Writable, WritableEntries]

/-! ## Snapshots -/

theorem textSize_of_ascii {s : String} (h : ∀ c ∈ s.toList, escapedSize c = 1) :
    textSize s = s.toList.length := by
  unfold textSize
  rw [List.map_congr_left h, List.map_const', List.sum_replicate, smul_eq_mul, Nat.mul_one]

theorem textSize_uuid (id : Uuid) : textSize id.str = 36 := by
  have hlength : id.str.toList.length = 36 := by
    simp [Uuid.str, Uuid.strChars, Uuid.hex, Uuid.hexDigits_length]
  rw [textSize_of_ascii, hlength]
  have hall : ∀ c ∈ '-' :: "0123456789abcdef".toList, escapedSize c = 1 := by
    simp [escapedSize]
  have hhex : ∀ c ∈ id.hex, c ∈ '-' :: "0123456789abcdef".toList :=
    fun c hc => List.mem_cons_of_mem _ (Uuid.hexDigits_mem hc)
  intro c hc
  apply hall
  rw [Uuid.str, String.toList_ofList, Uuid.strChars] at hc
  simp only [List.mem_append, List.mem_cons] at hc
  rcases hc with h | rfl | h | rfl | h | rfl | h | rfl | h
  · exact hhex c (List.mem_of_mem_take h)
  · exact List.mem_cons_self
  · exact hhex c (List.mem_of_mem_drop (List.mem_of_mem_take h))
  · exact List.mem_cons_self
  · exact hhex c (List.mem_of_mem_drop (List.mem_of_mem_take h))
  · exact List.mem_cons_self
  · exact hhex c (List.mem_of_mem_drop (List.mem_of_mem_take h))
  · exact List.mem_cons_self
  · exact hhex c (List.mem_of_mem_drop h)

theorem writable_payload (s : ConversationEvidenceSnapshot)
    (hversion : s.schemaVersion = evidenceSchemaVersion) :
    Writable (.dict s.payload) ↔ ∀ block ∈ s.evidence, BlockWritable block := by
  have hint : WritableInt evidenceSchemaVersion := by decide
  simp [ConversationEvidenceSnapshot.payload, Writable, WritableEntries, writableItems_map,
    writable_serializeBlock, hversion, hint]

theorem size_payload (s : ConversationEvidenceSnapshot)
    (hversion : s.schemaVersion = evidenceSchemaVersion) :
    size py (.dict s.payload) = snapshotSize py s.toolName s.evidence := by
  have hone : (toString evidenceSchemaVersion).utf8ByteSize = 1 := by decide
  have hsizes : itemSizes py (s.evidence.map serializeBlock) = s.evidence.map (blockSize py) := by
    simp only [itemSizes_map, size_serializeBlock]
  rw [ConversationEvidenceSnapshot.payload, size]
  simp only [entrySizes, size, hversion, hone, hsizes, textSize_uuid, textSize_keys, snapshotSize]
  generalize joinedSize (s.evidence.map (blockSize py)) = evidence
  simp only [joinedSize, List.sum_cons, List.sum_nil, List.length_cons, List.length_nil]
  omega

/-- `to_json` accepts a snapshot of the current schema if and only if its integers have decimal
texts and its texts fit. -/
theorem toJson_isOk_iff (s : ConversationEvidenceSnapshot)
    (hversion : s.schemaVersion = evidenceSchemaVersion) :
    (∃ payload, s.toJson py = .ok payload) ↔
      (∀ block ∈ s.evidence, BlockWritable block) ∧
        snapshotSize py s.toolName s.evidence ≤ maxSerializedEvidenceBytes := by
  rw [← writable_payload s hversion, ← size_payload py s hversion]
  unfold ConversationEvidenceSnapshot.toJson
  rw [if_neg (fun hne => hne hversion)]
  by_cases hwritable : Writable (.dict s.payload)
  · obtain ⟨text, hdumps, hsize⟩ : ∃ text, dumps py (.dict s.payload) = .ok text ∧ _ :=
      dumps_ok (.dict s.payload) hwritable
    rw [hdumps, ← hsize]
    simp only [hwritable, true_and, bind, Except.bind]
    split_ifs with hlarge
    · refine iff_of_false ?_ (by omega)
      rintro ⟨payload, h⟩
      cases h
    · exact iff_of_true ⟨_, rfl⟩ (by omega)
  · obtain ⟨e, hdumps⟩ : ∃ e, dumps py (.dict s.payload) = .error e :=
      dumps_error (.dict s.payload) hwritable
    rw [hdumps]
    refine iff_of_false ?_ (fun h => hwritable h.1)
    rintro ⟨payload, h⟩
    cases h

end HotAirBalloon.Evidence
