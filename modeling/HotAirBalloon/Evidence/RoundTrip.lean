import HotAirBalloon.Evidence.Snapshot

/-!
# Reading evidence back

What the decoder makes of the encoder's output. It refuses empty strings in the required
fields, and what it accepts comes back without the sources of the items. So each level has
one lemma of the form "decoding the encoding succeeds with `y` iff every required string is
non-empty and `y` is the original without its sources", and `mapM_map_eq_ok` lifts such a
lemma to lists.
-/

namespace HotAirBalloon.Evidence

open Python Kernel

/-! ## Required strings and lost sources -/

def FieldDecodes (field : EvidenceField) : Prop := field.name ≠ "" ∧ field.label ≠ ""

def ItemDecodes (item : EvidenceItem) : Prop :=
  item.evidenceId ≠ "" ∧ item.entityId ≠ "" ∧ item.label ≠ "" ∧
    ∀ field ∈ item.fields, FieldDecodes field

/-- Every required string of a block is non-empty. -/
def BlockDecodes : EvidenceBlock → Prop
  | .collection block =>
    block.evidenceId ≠ "" ∧ block.entityLabel ≠ "" ∧ block.entityLabelPlural ≠ "" ∧
      (∀ field ∈ block.filters, FieldDecodes field) ∧ ∀ item ∈ block.items, ItemDecodes item
  | .mutation block =>
    block.evidenceId ≠ "" ∧ block.entityLabel ≠ "" ∧ block.entityId ≠ "" ∧ block.currentState ≠ ""
  | .actionRequired block => block.evidenceId ≠ "" ∧ block.action ≠ "" ∧ block.reason ≠ ""
  | .failure block => block.evidenceId ≠ "" ∧ block.code ≠ "" ∧ block.message ≠ ""

def itemWithoutSource (item : EvidenceItem) : EvidenceItem := { item with source := none }

def blockWithoutSources : EvidenceBlock → EvidenceBlock
  | .collection block => .collection { block with items := block.items.map itemWithoutSource }
  | block => block

/-- No item of a block has a source. -/
def BlockSourceless : EvidenceBlock → Prop
  | .collection block => ∀ item ∈ block.items, item.source = none
  | _ => True

/-! ## Decoders on known data -/

section

variable {data : Dict Value}

theorem except_bind_eq_ok {α β : Type} {x : Except PyError α} {f : α → Except PyError β} {b : β} :
    (x >>= f) = .ok b ↔ ∃ a, x = .ok a ∧ f a = .ok b := by
  cases x with
  | error e =>
    constructor
    · intro h
      cases h
    · rintro ⟨a, ha, -⟩
      cases ha
  | ok a =>
    constructor
    · intro h
      exact ⟨a, rfl, h⟩
    · rintro ⟨a', ha, h⟩
      cases ha
      exact h

theorem except_pure_eq_ok {α : Type} {a b : α} : (pure a : Except PyError α) = .ok b ↔ b = a := by
  constructor
  · intro h
    cases h
    rfl
  · rintro rfl
    rfl

theorem requiredString_eq_ok {name value s : String} (h : data.get? name = some (.str value)) :
    requiredString data name = .ok s ↔ value ≠ "" ∧ s = value := by
  unfold requiredString
  rw [h]
  by_cases hempty : value = ""
  · simp [hempty, throw, throwThe, MonadExceptOf.throw]
  · simp only [hempty, if_false, except_pure_eq_ok, ne_eq, not_false_eq_true, true_and]

theorem requiredBool_eq_ok {name : String} {value b : Bool}
    (h : data.get? name = some (.bool value)) : requiredBool data name = .ok b ↔ b = value := by
  unfold requiredBool
  rw [h]
  exact except_pure_eq_ok

theorem optionalString_eq_ok {name : String} {value s : Option String}
    (h : data.get? name = some (Value.optionalStr value)) :
    optionalString data name = .ok s ↔ s = value := by
  unfold optionalString
  rw [h]
  cases value with
  | none => exact except_pure_eq_ok
  | some value => exact except_pure_eq_ok

theorem requestedCountOf_eq_ok {value count : Option Int} :
    requestedCountOf (some (optionalInt value)) = .ok count ↔ count = value := by
  cases value with
  | none => exact except_pure_eq_ok
  | some value => exact except_pure_eq_ok

theorem scalarOf_eq_ok {value scalar : EvidenceScalar} :
    scalarOf (some (scalarValue value)) = .ok scalar ↔ scalar = value := by
  cases value <;> exact except_pure_eq_ok

theorem listOrEmpty_eq {name : String} {items : List Value}
    (h : data.get? name = some (.list items)) : listOrEmpty data name = some items := by
  unfold listOrEmpty
  rw [h]

end

/-- Decoding an encoded list, item by item. -/
theorem mapM_map_eq_ok {α : Type} {encode : α → Value} {decode : Value → Except PyError α}
    {Decodes : α → Prop} {restored : α → α}
    (hitem : ∀ a b, decode (encode a) = .ok b ↔ Decodes a ∧ b = restored a) (as bs : List α) :
    (as.map encode).mapM decode = .ok bs ↔ (∀ a ∈ as, Decodes a) ∧ bs = as.map restored := by
  induction as generalizing bs with
  | nil =>
    simp only [List.map_nil, List.mapM_nil, except_pure_eq_ok, List.not_mem_nil, false_implies,
      implies_true, true_and]
  | cons a as ih =>
    simp only [List.map_cons, List.mapM_cons, except_bind_eq_ok, hitem, ih, except_pure_eq_ok]
    constructor
    · rintro ⟨b, ⟨hb, rfl⟩, bs', ⟨hbs, rfl⟩, rfl⟩
      refine ⟨?_, rfl⟩
      intro a' ha'
      rcases List.mem_cons.mp ha' with rfl | hmem
      · exact hb
      · exact hbs a' hmem
    · rintro ⟨hall, rfl⟩
      exact ⟨_, ⟨hall a List.mem_cons_self, rfl⟩, _,
        ⟨fun a' ha' => hall a' (List.mem_cons_of_mem a ha'), rfl⟩, rfl⟩

/-! ## Fields, items and blocks -/

theorem deserializeField_serializeField (a b : EvidenceField) :
    deserializeField (serializeField a) = .ok b ↔ FieldDecodes a ∧ b = a := by
  obtain ⟨data, hdata, hname, hlabel, hvalue⟩ : ∃ data : Dict Value, serializeField a = .dict data ∧
      data.get? "name" = some (.str a.name) ∧ data.get? "label" = some (.str a.label) ∧
      data.get? "value" = some (scalarValue a.value) :=
    ⟨_, rfl, by simp [Dict.get?_cons], by simp [Dict.get?_cons], by simp [Dict.get?_cons]⟩
  unfold deserializeField FieldDecodes
  rw [hdata]
  simp only [mapping, except_bind_eq_ok, Except.ok.injEq, exists_eq_left', hvalue, scalarOf_eq_ok,
    exists_eq_left, requiredString_eq_ok hname, requiredString_eq_ok hlabel, except_pure_eq_ok]
  constructor
  · rintro ⟨name, ⟨h1, rfl⟩, label, ⟨h2, rfl⟩, rfl⟩
    exact ⟨⟨h1, h2⟩, rfl⟩
  · rintro ⟨⟨h1, h2⟩, rfl⟩
    exact ⟨_, ⟨h1, rfl⟩, _, ⟨h2, rfl⟩, rfl⟩

theorem deserializeFields_serializeFields (as bs : List EvidenceField) :
    (as.map serializeField).mapM deserializeField = .ok bs ↔
      (∀ field ∈ as, FieldDecodes field) ∧ bs = as := by
  have h : bs = as ↔ bs = as.map id := by rw [List.map_id]
  rw [h]
  exact mapM_map_eq_ok deserializeField_serializeField as bs

theorem deserializeItem_serializeItem (a b : EvidenceItem) :
    deserializeItem (serializeItem a) = .ok b ↔ ItemDecodes a ∧ b = itemWithoutSource a := by
  obtain ⟨data, hdata, hid, hentity, hlabel, hfields⟩ : ∃ data : Dict Value,
    serializeItem a = .dict data ∧ data.get? "evidence_id" = some (.str a.evidenceId) ∧
      data.get? "entity_id" = some (.str a.entityId) ∧
      data.get? "label" = some (.str a.label) ∧
      data.get? "fields" = some (.list (a.fields.map serializeField)) :=
    ⟨_, rfl, by simp [Dict.get?_cons], by simp [Dict.get?_cons], by simp [Dict.get?_cons],
      by simp [Dict.get?_cons]⟩
  unfold deserializeItem ItemDecodes itemWithoutSource
  rw [hdata]
  simp only [mapping, except_bind_eq_ok, Except.ok.injEq, exists_eq_left', listOrEmpty_eq hfields,
    requiredString_eq_ok hid, requiredString_eq_ok hentity, requiredString_eq_ok hlabel,
    deserializeFields_serializeFields, except_pure_eq_ok]
  constructor
  · rintro ⟨id, ⟨h1, rfl⟩, entity, ⟨h2, rfl⟩, label, ⟨h3, rfl⟩, fields, ⟨hfields, rfl⟩, rfl⟩
    exact ⟨⟨h1, h2, h3, hfields⟩, rfl⟩
  · rintro ⟨⟨h1, h2, h3, hfields⟩, rfl⟩
    exact ⟨_, ⟨h1, rfl⟩, _, ⟨h2, rfl⟩, _, ⟨h3, rfl⟩, _, ⟨hfields, rfl⟩, rfl⟩

theorem deserializeItems_serializeItems (as bs : List EvidenceItem) :
    (as.map serializeItem).mapM deserializeItem = .ok bs ↔
      (∀ item ∈ as, ItemDecodes item) ∧ bs = as.map itemWithoutSource :=
  mapM_map_eq_ok deserializeItem_serializeItem as bs

section

variable {data : Dict Value}

theorem deserializeCollection_eq_ok (a b : CollectionEvidence)
    (hid : data.get? "evidence_id" = some (.str a.evidenceId))
    (hlabel : data.get? "entity_label" = some (.str a.entityLabel))
    (hplural : data.get? "entity_label_plural" = some (.str a.entityLabelPlural))
    (hfilters : data.get? "filters" = some (.list (a.filters.map serializeField)))
    (hcount : data.get? "requested_count" = some (optionalInt a.requestedCount))
    (hitems : data.get? "items" = some (.list (a.items.map serializeItem))) :
    deserializeCollection data = .ok b ↔
      BlockDecodes (.collection a) ∧ b = { a with items := a.items.map itemWithoutSource } := by
  unfold deserializeCollection BlockDecodes
  simp only [listOrEmpty_eq hfilters, listOrEmpty_eq hitems, hcount, except_bind_eq_ok,
    requestedCountOf_eq_ok, exists_eq_left, requiredString_eq_ok hid, requiredString_eq_ok hlabel,
    requiredString_eq_ok hplural, deserializeFields_serializeFields,
    deserializeItems_serializeItems, except_pure_eq_ok]
  constructor
  · rintro ⟨id, ⟨h1, rfl⟩, label, ⟨h2, rfl⟩, plural, ⟨h3, rfl⟩, filters, ⟨h4, rfl⟩, items,
      ⟨h5, rfl⟩, rfl⟩
    exact ⟨⟨h1, h2, h3, h4, h5⟩, rfl⟩
  · rintro ⟨⟨h1, h2, h3, h4, h5⟩, rfl⟩
    exact ⟨_, ⟨h1, rfl⟩, _, ⟨h2, rfl⟩, _, ⟨h3, rfl⟩, _, ⟨h4, rfl⟩, _, ⟨h5, rfl⟩, rfl⟩

theorem deserializeMutation_eq_ok (a b : MutationEvidence)
    (hid : data.get? "evidence_id" = some (.str a.evidenceId))
    (hlabel : data.get? "entity_label" = some (.str a.entityLabel))
    (hentity : data.get? "entity_id" = some (.str a.entityId))
    (hprevious : data.get? "previous_state" = some (Value.optionalStr a.previousState))
    (hcurrent : data.get? "current_state" = some (.str a.currentState))
    (hchanged : data.get? "changed" = some (.bool a.changed)) :
    deserializeMutation data = .ok b ↔ BlockDecodes (.mutation a) ∧ b = a := by
  unfold deserializeMutation BlockDecodes
  simp only [except_bind_eq_ok, requiredString_eq_ok hid, requiredString_eq_ok hlabel,
    requiredString_eq_ok hentity, optionalString_eq_ok hprevious, requiredString_eq_ok hcurrent,
    requiredBool_eq_ok hchanged, exists_eq_left, except_pure_eq_ok]
  constructor
  · rintro ⟨id, ⟨h1, rfl⟩, label, ⟨h2, rfl⟩, entity, ⟨h3, rfl⟩, current, ⟨h4, rfl⟩, rfl⟩
    exact ⟨⟨h1, h2, h3, h4⟩, rfl⟩
  · rintro ⟨⟨h1, h2, h3, h4⟩, rfl⟩
    exact ⟨_, ⟨h1, rfl⟩, _, ⟨h2, rfl⟩, _, ⟨h3, rfl⟩, _, ⟨h4, rfl⟩, rfl⟩

theorem deserializeActionRequired_eq_ok (a b : ActionRequiredEvidence)
    (hid : data.get? "evidence_id" = some (.str a.evidenceId))
    (haction : data.get? "action" = some (.str a.action))
    (hreason : data.get? "reason" = some (.str a.reason)) :
    deserializeActionRequired data = .ok b ↔ BlockDecodes (.actionRequired a) ∧ b = a := by
  unfold deserializeActionRequired BlockDecodes
  simp only [except_bind_eq_ok, requiredString_eq_ok hid, requiredString_eq_ok haction,
    requiredString_eq_ok hreason, except_pure_eq_ok]
  constructor
  · rintro ⟨id, ⟨h1, rfl⟩, action, ⟨h2, rfl⟩, reason, ⟨h3, rfl⟩, rfl⟩
    exact ⟨⟨h1, h2, h3⟩, rfl⟩
  · rintro ⟨⟨h1, h2, h3⟩, rfl⟩
    exact ⟨_, ⟨h1, rfl⟩, _, ⟨h2, rfl⟩, _, ⟨h3, rfl⟩, rfl⟩

theorem deserializeFailure_eq_ok (a b : FailureEvidence)
    (hid : data.get? "evidence_id" = some (.str a.evidenceId))
    (hcode : data.get? "code" = some (.str a.code))
    (hmessage : data.get? "message" = some (.str a.message))
    (hretryable : data.get? "retryable" = some (.bool a.retryable)) :
    deserializeFailure data = .ok b ↔ BlockDecodes (.failure a) ∧ b = a := by
  unfold deserializeFailure BlockDecodes
  simp only [except_bind_eq_ok, requiredString_eq_ok hid, requiredString_eq_ok hcode,
    requiredString_eq_ok hmessage, requiredBool_eq_ok hretryable, exists_eq_left,
    except_pure_eq_ok]
  constructor
  · rintro ⟨id, ⟨h1, rfl⟩, code, ⟨h2, rfl⟩, message, ⟨h3, rfl⟩, rfl⟩
    exact ⟨⟨h1, h2, h3⟩, rfl⟩
  · rintro ⟨⟨h1, h2, h3⟩, rfl⟩
    exact ⟨_, ⟨h1, rfl⟩, _, ⟨h2, rfl⟩, _, ⟨h3, rfl⟩, rfl⟩

/-- The decoder once the block type is known. -/
theorem deserializeBlock_eq_ok {blockType : String} {b : EvidenceBlock}
    (htype : data.get? "type" = some (.str blockType)) (hne : blockType ≠ "") :
    deserializeBlock (.dict data) = .ok b ↔
      (if blockType = "collection" then
          return EvidenceBlock.collection (← deserializeCollection data)
        else if blockType = "mutation" then return .mutation (← deserializeMutation data)
        else if blockType = "action_required" then
          return .actionRequired (← deserializeActionRequired data)
        else if blockType = "failure" then return .failure (← deserializeFailure data)
        else throw (PyError.valueError "unsupported evidence block type")) = .ok b := by
  unfold deserializeBlock
  simp only [mapping, except_bind_eq_ok, Except.ok.injEq, exists_eq_left',
    requiredString_eq_ok htype]
  constructor
  · rintro ⟨_, ⟨-, rfl⟩, h⟩
    exact h
  · intro h
    exact ⟨_, ⟨hne, rfl⟩, h⟩

end

theorem deserializeBlock_collection (block : CollectionEvidence) (b : EvidenceBlock) :
    deserializeBlock (serializeBlock (.collection block)) = .ok b ↔
      BlockDecodes (.collection block) ∧ b = blockWithoutSources (.collection block) := by
  obtain ⟨data, hdata, htype, hid, hlabel, hplural, hfilters, hcount, hitems⟩ : ∃ data : Dict Value,
      serializeBlock (.collection block) = .dict data ∧
      data.get? "type" = some (.str "collection") ∧
      data.get? "evidence_id" = some (.str block.evidenceId) ∧
      data.get? "entity_label" = some (.str block.entityLabel) ∧
      data.get? "entity_label_plural" = some (.str block.entityLabelPlural) ∧
      data.get? "filters" = some (.list (block.filters.map serializeField)) ∧
      data.get? "requested_count" = some (optionalInt block.requestedCount) ∧
      data.get? "items" = some (.list (block.items.map serializeItem)) := by
    refine ⟨_, rfl, ?_, ?_, ?_, ?_, ?_, ?_, ?_⟩ <;> simp [Dict.get?_cons]
  rw [hdata, deserializeBlock_eq_ok htype (by decide), if_pos rfl, except_bind_eq_ok]
  simp only [deserializeCollection_eq_ok block _ hid hlabel hplural hfilters hcount hitems,
    except_pure_eq_ok]
  constructor
  · rintro ⟨c, ⟨hdecodes, rfl⟩, rfl⟩
    exact ⟨hdecodes, rfl⟩
  · rintro ⟨hdecodes, rfl⟩
    exact ⟨_, ⟨hdecodes, rfl⟩, rfl⟩

theorem deserializeBlock_mutation (block : MutationEvidence) (b : EvidenceBlock) :
    deserializeBlock (serializeBlock (.mutation block)) = .ok b ↔
      BlockDecodes (.mutation block) ∧ b = blockWithoutSources (.mutation block) := by
  obtain ⟨data, hdata, htype, hid, hlabel, hentity, hprevious, hcurrent, hchanged⟩ :
      ∃ data : Dict Value, serializeBlock (.mutation block) = .dict data ∧
      data.get? "type" = some (.str "mutation") ∧
      data.get? "evidence_id" = some (.str block.evidenceId) ∧
      data.get? "entity_label" = some (.str block.entityLabel) ∧
      data.get? "entity_id" = some (.str block.entityId) ∧
      data.get? "previous_state" = some (Value.optionalStr block.previousState) ∧
      data.get? "current_state" = some (.str block.currentState) ∧
      data.get? "changed" = some (.bool block.changed) := by
    refine ⟨_, rfl, ?_, ?_, ?_, ?_, ?_, ?_, ?_⟩ <;> simp [Dict.get?_cons]
  rw [hdata, deserializeBlock_eq_ok htype (by decide), if_neg (by decide), if_pos rfl,
    except_bind_eq_ok]
  simp only [deserializeMutation_eq_ok block _ hid hlabel hentity hprevious hcurrent hchanged,
    except_pure_eq_ok]
  constructor
  · rintro ⟨c, ⟨hdecodes, rfl⟩, rfl⟩
    exact ⟨hdecodes, rfl⟩
  · rintro ⟨hdecodes, rfl⟩
    exact ⟨_, ⟨hdecodes, rfl⟩, rfl⟩

theorem deserializeBlock_actionRequired (block : ActionRequiredEvidence) (b : EvidenceBlock) :
    deserializeBlock (serializeBlock (.actionRequired block)) = .ok b ↔
      BlockDecodes (.actionRequired block) ∧ b = blockWithoutSources (.actionRequired block) := by
  obtain ⟨data, hdata, htype, hid, haction, hreason⟩ : ∃ data : Dict Value,
      serializeBlock (.actionRequired block) = .dict data ∧
      data.get? "type" = some (.str "action_required") ∧
      data.get? "evidence_id" = some (.str block.evidenceId) ∧
      data.get? "action" = some (.str block.action) ∧
      data.get? "reason" = some (.str block.reason) := by
    refine ⟨_, rfl, ?_, ?_, ?_, ?_⟩ <;> simp [Dict.get?_cons]
  rw [hdata, deserializeBlock_eq_ok htype (by decide), if_neg (by decide), if_neg (by decide),
    if_pos rfl, except_bind_eq_ok]
  simp only [deserializeActionRequired_eq_ok block _ hid haction hreason, except_pure_eq_ok]
  constructor
  · rintro ⟨c, ⟨hdecodes, rfl⟩, rfl⟩
    exact ⟨hdecodes, rfl⟩
  · rintro ⟨hdecodes, rfl⟩
    exact ⟨_, ⟨hdecodes, rfl⟩, rfl⟩

theorem deserializeBlock_failure (block : FailureEvidence) (b : EvidenceBlock) :
    deserializeBlock (serializeBlock (.failure block)) = .ok b ↔
      BlockDecodes (.failure block) ∧ b = blockWithoutSources (.failure block) := by
  obtain ⟨data, hdata, htype, hid, hcode, hmessage, hretryable⟩ : ∃ data : Dict Value,
      serializeBlock (.failure block) = .dict data ∧
      data.get? "type" = some (.str "failure") ∧
      data.get? "evidence_id" = some (.str block.evidenceId) ∧
      data.get? "code" = some (.str block.code) ∧
      data.get? "message" = some (.str block.message) ∧
      data.get? "retryable" = some (.bool block.retryable) := by
    refine ⟨_, rfl, ?_, ?_, ?_, ?_, ?_⟩ <;> simp [Dict.get?_cons]
  rw [hdata, deserializeBlock_eq_ok htype (by decide), if_neg (by decide), if_neg (by decide),
    if_neg (by decide), if_pos rfl, except_bind_eq_ok]
  simp only [deserializeFailure_eq_ok block _ hid hcode hmessage hretryable, except_pure_eq_ok]
  constructor
  · rintro ⟨c, ⟨hdecodes, rfl⟩, rfl⟩
    exact ⟨hdecodes, rfl⟩
  · rintro ⟨hdecodes, rfl⟩
    exact ⟨_, ⟨hdecodes, rfl⟩, rfl⟩

theorem deserializeBlock_serializeBlock (a b : EvidenceBlock) :
    deserializeBlock (serializeBlock a) = .ok b ↔ BlockDecodes a ∧ b = blockWithoutSources a := by
  cases a with
  | collection block => exact deserializeBlock_collection block b
  | mutation block => exact deserializeBlock_mutation block b
  | actionRequired block => exact deserializeBlock_actionRequired block b
  | failure block => exact deserializeBlock_failure block b

/-! ## Snapshots -/

namespace ConversationEvidenceSnapshot

/-- Every required string of a snapshot is non-empty. -/
def Decodes (s : ConversationEvidenceSnapshot) : Prop :=
  s.toolName ≠ "" ∧ ∀ block ∈ s.evidence, BlockDecodes block

/-- No item of a snapshot has a source. -/
def Sourceless (s : ConversationEvidenceSnapshot) : Prop :=
  ∀ block ∈ s.evidence, BlockSourceless block

def withoutSources (s : ConversationEvidenceSnapshot) : ConversationEvidenceSnapshot :=
  { s with evidence := s.evidence.map blockWithoutSources }

end ConversationEvidenceSnapshot

open ConversationEvidenceSnapshot

theorem serializeBlock_withoutSources (a : EvidenceBlock) :
    serializeBlock (blockWithoutSources a) = serializeBlock a := by
  cases a with
  | collection block =>
    have h :
        (block.items.map itemWithoutSource).map serializeItem = block.items.map serializeItem := by
      rw [List.map_map]
      rfl
    unfold blockWithoutSources serializeBlock
    simp only [h]
  | mutation block => rfl
  | actionRequired block => rfl
  | failure block => rfl

theorem payload_withoutSources (s : ConversationEvidenceSnapshot) :
    s.withoutSources.payload = s.payload := by
  have h :
      (s.evidence.map blockWithoutSources).map serializeBlock = s.evidence.map serializeBlock := by
    rw [List.map_map]
    exact List.map_congr_left (fun block _ => serializeBlock_withoutSources block)
  unfold payload withoutSources
  simp only [h]

theorem map_eq_self_iff {α : Type} {f : α → α} (as : List α) :
    as.map f = as ↔ ∀ a ∈ as, f a = a := by
  have h : as.map f = as.map id ↔ ∀ a ∈ as, f a = a := List.map_inj_left
  rwa [List.map_id] at h

theorem itemWithoutSource_eq_self (item : EvidenceItem) :
    itemWithoutSource item = item ↔ item.source = none := by
  unfold itemWithoutSource
  constructor
  · intro h
    rw [← h]
  · intro h
    rw [← h]

theorem blockWithoutSources_eq_self (a : EvidenceBlock) :
    blockWithoutSources a = a ↔ BlockSourceless a := by
  cases a with
  | collection block =>
    have h : blockWithoutSources (.collection block) = .collection block ↔
        block.items.map itemWithoutSource = block.items := by
      constructor
      · intro h
        injection h with h
        exact congrArg CollectionEvidence.items h
      · intro h
        simp only [blockWithoutSources, h]
    rw [h, map_eq_self_iff]
    exact forall₂_congr (fun item _ => itemWithoutSource_eq_self item)
  | mutation block => exact ⟨fun _ => trivial, fun _ => rfl⟩
  | actionRequired block => exact ⟨fun _ => trivial, fun _ => rfl⟩
  | failure block => exact ⟨fun _ => trivial, fun _ => rfl⟩

theorem withoutSources_eq_self (s : ConversationEvidenceSnapshot) :
    s.withoutSources = s ↔ s.Sourceless := by
  have h : s.withoutSources = s ↔ s.evidence.map blockWithoutSources = s.evidence := by
    unfold withoutSources
    constructor
    · intro h
      exact congrArg ConversationEvidenceSnapshot.evidence h
    · intro h
      rw [h]
  rw [h, map_eq_self_iff]
  exact forall₂_congr (fun block _ => blockWithoutSources_eq_self block)

/-- What `to_json` accepts has the current schema version and is its payload. -/
theorem toJson_eq_ok {py : Interpreter} {s : ConversationEvidenceSnapshot} {data : Dict Value}
    (h : s.toJson py = .ok data) : s.schemaVersion = evidenceSchemaVersion ∧ data = s.payload := by
  unfold toJson at h
  by_cases hversion : s.schemaVersion = evidenceSchemaVersion
  · rw [if_neg (not_not.mpr hversion)] at h
    obtain ⟨text, -, h⟩ := except_bind_eq_ok.mp h
    by_cases hsize : text.utf8ByteSize > maxSerializedEvidenceBytes
    · rw [if_pos hsize] at h
      cases h
    · rw [if_neg hsize] at h
      exact ⟨hversion, except_pure_eq_ok.mp h⟩
  · rw [if_pos hversion] at h
    cases h

theorem toJson_withoutSources {py : Interpreter} {s : ConversationEvidenceSnapshot} :
    s.withoutSources.toJson py = s.toJson py := by
  unfold toJson
  rw [payload_withoutSources]
  rfl

theorem uuidOf_str (py : Interpreter) (id : Uuid) : uuidOf py id.str = .ok id := by
  unfold uuidOf
  rw [Uuid.parse_str]
  rfl

/-- The snapshot that `from_json` makes of what `to_json` accepted: the original without its
sources, provided that no required string is empty. -/
theorem fromJson_toJson {py : Interpreter} {s : ConversationEvidenceSnapshot} {data : Dict Value}
    (h : s.toJson py = .ok data) (restored : ConversationEvidenceSnapshot) :
    fromJson py s.conversationId s.ownerUserId s.createdAtUtc s.expiresAtUtc data = .ok restored ↔
      s.Decodes ∧ restored = s.withoutSources := by
  obtain ⟨hversion, hdata⟩ := toJson_eq_ok h
  have hschema : data.get? "schema_version" = some (.int evidenceSchemaVersion) := by
    simp [hdata, payload, Dict.get?_cons, hversion]
  have hexchange : data.get? "exchange_id" = some (.str s.exchangeId.str) := by
    simp [hdata, payload, Dict.get?_cons]
  have htool : data.get? "tool_name" = some (.str s.toolName) := by
    simp [hdata, payload, Dict.get?_cons]
  have hevidence : data.get? "evidence" = some (.list (s.evidence.map serializeBlock)) := by
    simp [hdata, payload, Dict.get?_cons]
  -- the decoded snapshot is checked by `to_json` again, which sees no sources
  have hagain : s.withoutSources.toJson py = .ok data := toJson_withoutSources.trans h
  have hrestored : s.withoutSources = {
      conversationId := s.conversationId, ownerUserId := s.ownerUserId, exchangeId := s.exchangeId
      toolName := s.toolName, evidence := s.evidence.map blockWithoutSources
      createdAtUtc := s.createdAtUtc, expiresAtUtc := s.expiresAtUtc } := by
    unfold withoutSources
    rw [hversion]
  unfold fromJson Decodes
  rw [hschema, hevidence, Option.getD_some, Value.pyEq_int, decide_eq_true rfl]
  simp only [Bool.not_true, Bool.false_eq_true, if_false, except_bind_eq_ok,
    requiredString_eq_ok hexchange, requiredString_eq_ok htool,
    mapM_map_eq_ok deserializeBlock_serializeBlock, except_pure_eq_ok]
  constructor
  · rintro ⟨_, ⟨-, rfl⟩, exchangeId, hid, _, ⟨htool, rfl⟩, _, ⟨hblocks, rfl⟩, -, -, rfl⟩
    rw [uuidOf_str] at hid
    cases hid
    exact ⟨⟨htool, hblocks⟩, hrestored.symm⟩
  · rintro ⟨⟨htool, hblocks⟩, rfl⟩
    rw [hrestored] at hagain ⊢
    exact ⟨_, ⟨Uuid.str_ne_empty _, rfl⟩, s.exchangeId, uuidOf_str py _, _, ⟨htool, rfl⟩, _,
      ⟨hblocks, rfl⟩, _, hagain, rfl⟩

/-- A snapshot that `to_json` accepts is read back unchanged iff none of its required strings is
empty and none of its items has a source. -/
theorem fromJson_toJson_eq_self_iff (py : Interpreter) (s : ConversationEvidenceSnapshot)
    (data : Dict Value) (h : s.toJson py = .ok data) :
    fromJson py s.conversationId s.ownerUserId s.createdAtUtc s.expiresAtUtc data = .ok s ↔
      s.Decodes ∧ s.Sourceless := by
  rw [fromJson_toJson h, eq_comm, withoutSources_eq_self]

/-- A snapshot of one web page. -/
def pageSnapshot (label : String) (source : Option SourceReference) :
    ConversationEvidenceSnapshot where
  conversationId := Uuid.ofNat 1
  ownerUserId := Uuid.ofNat 2
  exchangeId := Uuid.ofNat 3
  toolName := "assistant.run"
  evidence := [.collection {
    evidenceId := "web_search", entityLabel := "page", entityLabelPlural := "pages", filters := []
    requestedCount := some 1
    items :=
      [{ evidenceId := "web_search:1", entityId := "1", label := label, source := source }] }]
  createdAtUtc := 0
  expiresAtUtc := none

theorem exists_toJson {s : ConversationEvidenceSnapshot}
    (h : (s.toJson .ascii).toOption.isSome = true) : ∃ data, s.toJson .ascii = .ok data := by
  revert h
  rcases s.toJson .ascii with e | data
  · intro h
    cases h
  · intro _
    exact ⟨data, rfl⟩

theorem fromJson_toJson_eq_self_iff_page :
    ∃ data, (pageSnapshot "Torque tables" none).toJson .ascii = .ok data ∧
      fromJson .ascii (Uuid.ofNat 1) (Uuid.ofNat 2) 0 none data =
        .ok (pageSnapshot "Torque tables" none) := by
  obtain ⟨data, hdata⟩ := exists_toJson
    (show ((pageSnapshot "Torque tables" none).toJson .ascii).toOption.isSome = true by
      decide +kernel)
  refine ⟨data, hdata, (fromJson_toJson_eq_self_iff .ascii _ data hdata).mpr ⟨?_, ?_⟩⟩
  · simp [Decodes, pageSnapshot, BlockDecodes, ItemDecodes]
  · simp [Sourceless, pageSnapshot, BlockSourceless]

/-- The page with the source it was found at. -/
def sourcedSnapshot : ConversationEvidenceSnapshot :=
  pageSnapshot "Torque tables" (some ⟨"1", "Torque tables", "manual.pdf", none⟩)

/-- The source of an item is lost, and an empty label makes the stored exchange unreadable. -/
theorem fromJson_toJson_loses :
    (∃ data, sourcedSnapshot.toJson .ascii = .ok data ∧
        fromJson .ascii (Uuid.ofNat 1) (Uuid.ofNat 2) 0 none data ≠ .ok sourcedSnapshot) ∧
      ∃ data, (pageSnapshot "" none).toJson .ascii = .ok data ∧
        ∀ restored, fromJson .ascii (Uuid.ofNat 1) (Uuid.ofNat 2) 0 none data ≠ .ok restored := by
  constructor
  · obtain ⟨data, hdata⟩ := exists_toJson
      (show (sourcedSnapshot.toJson .ascii).toOption.isSome = true by decide +kernel)
    refine ⟨data, hdata, ?_⟩
    intro h
    have hsources := ((fromJson_toJson hdata _).mp h).2
    have hsourceless := (withoutSources_eq_self _).mp hsources.symm
    simp [Sourceless, sourcedSnapshot, pageSnapshot, BlockSourceless] at hsourceless
  · obtain ⟨data, hdata⟩ := exists_toJson
      (show ((pageSnapshot "" none).toJson .ascii).toOption.isSome = true by decide +kernel)
    refine ⟨data, hdata, ?_⟩
    intro restored h
    have hdecodes := ((fromJson_toJson hdata _).mp h).1
    simp [Decodes, pageSnapshot, BlockDecodes, ItemDecodes] at hdecodes

end HotAirBalloon.Evidence
