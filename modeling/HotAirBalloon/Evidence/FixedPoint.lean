import HotAirBalloon.Evidence.RoundTrip
import HotAirBalloon.Library.Traverse

/-!
# Stored evidence is a fixed point

The decoder accepts more than the encoder writes: other keys, missing lists, `True` for a version.
What it makes of a payload has its required strings and no sources, so it encodes, and decodes to
itself again (`fromJson_fixed`).
-/

namespace HotAirBalloon.Evidence

open Python Kernel Library ConversationEvidenceSnapshot

section

variable {data : Dict Value} {value : Value}

/-! ## What decoders make -/

theorem requiredString_ne_empty {name s : String} (h : requiredString data name = .ok s) :
    s ≠ "" := by
  unfold requiredString at h
  split at h
  · split at h
    · cases h
    · rename_i hsome
      cases h
      exact hsome
  · cases h

theorem deserializeField_decodes {field : EvidenceField} (h : deserializeField value = .ok field) :
    FieldDecodes field := by
  unfold deserializeField at h
  simp only [except_bind_eq_ok, except_pure_eq_ok] at h
  obtain ⟨_, -, _, -, name, hname, label, hlabel, rfl⟩ := h
  exact ⟨requiredString_ne_empty hname, requiredString_ne_empty hlabel⟩

theorem deserializeFields_decode {values : List Value} {fields : List EvidenceField}
    (h : values.mapM deserializeField = .ok fields) : ∀ field ∈ fields, FieldDecodes field := by
  intro field hfield
  obtain ⟨value, -, hvalue⟩ := exists_of_mem_mapM h hfield
  exact deserializeField_decodes hvalue

theorem deserializeItem_decodes {item : EvidenceItem} (h : deserializeItem value = .ok item) :
    ItemDecodes item ∧ item.source = none := by
  unfold deserializeItem at h
  obtain ⟨data, -, h⟩ := except_bind_eq_ok.mp h
  split at h
  · cases h
  · simp only [except_bind_eq_ok, except_pure_eq_ok] at h
    obtain ⟨evidenceId, hevidenceId, entityId, hentityId, label, hlabel, fields, hfields, rfl⟩ := h
    exact ⟨⟨requiredString_ne_empty hevidenceId, requiredString_ne_empty hentityId,
      requiredString_ne_empty hlabel, deserializeFields_decode hfields⟩, rfl⟩

theorem deserializeCollection_decodes {block : CollectionEvidence}
    (h : deserializeCollection data = .ok block) :
    BlockDecodes (.collection block) ∧ BlockSourceless (.collection block) := by
  unfold deserializeCollection at h
  split at h
  · simp only [except_bind_eq_ok, except_pure_eq_ok] at h
    obtain ⟨_, -, evidenceId, hevidenceId, entityLabel, hentityLabel, plural, hplural,
      filters, hfilters, items, hitems, rfl⟩ := h
    have hitem : ∀ item ∈ items, ItemDecodes item ∧ item.source = none := by
      intro item hmem
      obtain ⟨value, -, hvalue⟩ := exists_of_mem_mapM hitems hmem
      exact deserializeItem_decodes hvalue
    refine ⟨⟨requiredString_ne_empty hevidenceId, requiredString_ne_empty hentityLabel,
      requiredString_ne_empty hplural, deserializeFields_decode hfilters, ?_⟩, ?_⟩
    · exact fun item hmem => (hitem item hmem).1
    · exact fun item hmem => (hitem item hmem).2
  · cases h

theorem deserializeMutation_decodes {block : MutationEvidence}
    (h : deserializeMutation data = .ok block) : BlockDecodes (.mutation block) := by
  unfold deserializeMutation at h
  simp only [except_bind_eq_ok, except_pure_eq_ok] at h
  obtain ⟨_, hevidenceId, _, hentityLabel, _, hentityId, _, -, _, hcurrentState, _, -, rfl⟩ := h
  exact ⟨requiredString_ne_empty hevidenceId, requiredString_ne_empty hentityLabel,
    requiredString_ne_empty hentityId, requiredString_ne_empty hcurrentState⟩

theorem deserializeActionRequired_decodes {block : ActionRequiredEvidence}
    (h : deserializeActionRequired data = .ok block) : BlockDecodes (.actionRequired block) := by
  unfold deserializeActionRequired at h
  simp only [except_bind_eq_ok, except_pure_eq_ok] at h
  obtain ⟨_, hevidenceId, _, haction, _, hreason, rfl⟩ := h
  exact ⟨requiredString_ne_empty hevidenceId, requiredString_ne_empty haction,
    requiredString_ne_empty hreason⟩

theorem deserializeFailure_decodes {block : FailureEvidence}
    (h : deserializeFailure data = .ok block) : BlockDecodes (.failure block) := by
  unfold deserializeFailure at h
  simp only [except_bind_eq_ok, except_pure_eq_ok] at h
  obtain ⟨_, hevidenceId, _, hcode, _, hmessage, _, -, rfl⟩ := h
  exact ⟨requiredString_ne_empty hevidenceId, requiredString_ne_empty hcode,
    requiredString_ne_empty hmessage⟩

theorem deserializeBlock_decodes {block : EvidenceBlock} (h : deserializeBlock value = .ok block) :
    BlockDecodes block ∧ BlockSourceless block := by
  unfold deserializeBlock at h
  simp only [except_bind_eq_ok] at h
  obtain ⟨data, -, blockType, -, h⟩ := h
  split at h
  · simp only [except_bind_eq_ok, except_pure_eq_ok] at h
    obtain ⟨found, hfound, rfl⟩ := h
    exact deserializeCollection_decodes hfound
  · split at h
    · simp only [except_bind_eq_ok, except_pure_eq_ok] at h
      obtain ⟨found, hfound, rfl⟩ := h
      exact ⟨deserializeMutation_decodes hfound, trivial⟩
    · split at h
      · simp only [except_bind_eq_ok, except_pure_eq_ok] at h
        obtain ⟨found, hfound, rfl⟩ := h
        exact ⟨deserializeActionRequired_decodes hfound, trivial⟩
      · split at h
        · simp only [except_bind_eq_ok, except_pure_eq_ok] at h
          obtain ⟨found, hfound, rfl⟩ := h
          exact ⟨deserializeFailure_decodes hfound, trivial⟩
        · cases h

end

/-! ## Snapshots -/

/-- What `from_json` accepts is a snapshot under the given ids and times that `to_json` accepts. -/
theorem fromJson_decodes {py : Interpreter} {conversationId ownerUserId : Uuid}
    {createdAtUtc : DateTime}
    {expiresAtUtc : Option DateTime} {payload : Dict Value} {s : ConversationEvidenceSnapshot}
    (h : fromJson py conversationId ownerUserId createdAtUtc expiresAtUtc payload = .ok s) :
    s.Decodes ∧ s.Sourceless ∧ (∃ data, s.toJson py = .ok data) ∧
      s.conversationId = conversationId ∧ s.ownerUserId = ownerUserId ∧
      s.createdAtUtc = createdAtUtc ∧ s.expiresAtUtc = expiresAtUtc := by
  unfold fromJson at h
  split at h
  · cases h
  · split at h
    · simp only [except_bind_eq_ok, except_pure_eq_ok] at h
      obtain ⟨_, -, exchangeId, -, toolName, htoolName, evidence, hevidence, data, hdata, rfl⟩ := h
      have hblock : ∀ block ∈ evidence, BlockDecodes block ∧ BlockSourceless block := by
        intro block hmem
        obtain ⟨value, -, hvalue⟩ := exists_of_mem_mapM hevidence hmem
        exact deserializeBlock_decodes hvalue
      refine ⟨⟨requiredString_ne_empty htoolName, ?_⟩, ?_, ⟨data, hdata⟩, rfl, rfl, rfl, rfl⟩
      · exact fun block hmem => (hblock block hmem).1
      · exact fun block hmem => (hblock block hmem).2
    · cases h

/-- A snapshot that was read is written, and read back as it is. -/
theorem fromJson_fixed (py : Interpreter) (conversationId ownerUserId : Uuid)
    (createdAtUtc : DateTime)
    (expiresAtUtc : Option DateTime) (payload : Dict Value) (s : ConversationEvidenceSnapshot)
    (h : fromJson py conversationId ownerUserId createdAtUtc expiresAtUtc payload = .ok s) :
    ∃ data, s.toJson py = .ok data ∧
      fromJson py conversationId ownerUserId createdAtUtc expiresAtUtc data = .ok s := by
  obtain ⟨hdecodes, hsourceless, ⟨data, hdata⟩, rfl, rfl, rfl, rfl⟩ := fromJson_decodes h
  refine ⟨data, hdata, ?_⟩
  exact (fromJson_toJson hdata s).mpr ⟨hdecodes, ((withoutSources_eq_self s).mpr hsourceless).symm⟩

/-- A payload that the encoder does not write: its version is `True`, its id is in braces, it has a
key more, and a collection without lists. -/
def handwrittenPayload : Dict Value := [
  ("schema_version", .bool true),
  ("exchange_id", .str "{00000000-0000-0000-0000-000000000003}"),
  ("tool_name", .str "assistant.run"),
  ("note", .str "restored"),
  ("evidence", .list [.dict [("type", .str "collection"), ("evidence_id", .str "assets"),
    ("entity_label", .str "asset"), ("entity_label_plural", .str "assets")]])]

/-- What it is read as. -/
def handwrittenSnapshot : ConversationEvidenceSnapshot where
  conversationId := Uuid.ofNat 1
  ownerUserId := Uuid.ofNat 2
  exchangeId := Uuid.ofNat 3
  toolName := "assistant.run"
  evidence := [.collection {
    evidenceId := "assets"
    entityLabel := "asset"
    entityLabelPlural := "assets"
    filters := []
    requestedCount := none
    items := [] }]
  createdAtUtc := 0
  expiresAtUtc := none

theorem fromJson_fixed_handwritten :
    fromJson .ascii (Uuid.ofNat 1) (Uuid.ofNat 2) 0 none handwrittenPayload =
      .ok handwrittenSnapshot ∧
      ∃ data, handwrittenSnapshot.toJson .ascii = .ok data ∧
        fromJson .ascii (Uuid.ofNat 1) (Uuid.ofNat 2) 0 none data = .ok handwrittenSnapshot := by
  have hread : fromJson .ascii (Uuid.ofNat 1) (Uuid.ofNat 2) 0 none handwrittenPayload =
      .ok handwrittenSnapshot := by
    decide +kernel
  exact ⟨hread, fromJson_fixed .ascii (Uuid.ofNat 1) (Uuid.ofNat 2) 0 none handwrittenPayload
    handwrittenSnapshot hread⟩

end HotAirBalloon.Evidence
