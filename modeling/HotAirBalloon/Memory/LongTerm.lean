import HotAirBalloon.Memory.ConversationStore

/-!
# Long-term memory

The repositories and jobs of `conversation_memory/long_term`: memory records, their vectors, fact
candidates, reconciliation, retention and erasure. Values of `uuid4()` and `datetime.now(UTC)` are
arguments.
-/

namespace HotAirBalloon.Memory

open Python Library

/-! ## Memory records -/

structure MemoryRecordWrite where
  kind : String
  content : String
  ownerUserId : Option Uuid
  siteCode : Option String
  requiredPermissions : List String
  sourceTurnIds : List Uuid := []
  sourceDocumentId : Option Uuid := none
  expiresAtUtc : Option DateTime := none

/-- The repository, with the interpreter's tables and `sha256(text.encode()).hexdigest()`. -/
structure MemoryRecordRepository where
  py : Interpreter
  sha256 : String → String
  embeddingModel : String
  userMemoryNamespace : String
  documentsNamespace : String

namespace MemoryRecordRepository

variable (repository : MemoryRecordRepository)

/-- `_namespace_for`. -/
def namespaceFor (kind : String) : Except PyError String :=
  if kind = "conversation_summary" then return repository.userMemoryNamespace
  else if kind = "document_chunk" then return repository.documentsNamespace
  else throw (PyError.valueError ("Unsupported long-term memory kind: " ++ kind))

/-- `_content_hash`. -/
def contentHash (content : String) : String :=
  repository.sha256 (" ".intercalate (splitWords (repository.py.lower content)))

/-- The record that a write adds, with a given content and hash. -/
def newRecord (memory : MemoryRecordWrite) (memoryId : Uuid) (now : DateTime)
    (content contentSha256 : String) : Except PyError AssistantMemoryRecord := do
  let vectorNamespace ← repository.namespaceFor memory.kind
  return {
    id := memoryId
    kind := memory.kind
    ownerUserId := memory.ownerUserId
    siteCode := memory.siteCode
    requiredPermissions := memory.requiredPermissions.mergeSort (fun a b => decide (a ≤ b))
    content := content
    contentSha256 := contentSha256
    sourceTurnIds := memory.sourceTurnIds
    sourceDocumentId := memory.sourceDocumentId
    vectorNamespace := vectorNamespace
    vectorId := memoryId.str
    embeddingModel := repository.embeddingModel
    createdAt := now
    expiresAt := memory.expiresAtUtc }

/-- `record`. -/
def record (memory : MemoryRecordWrite) (memoryId : Uuid) (now : DateTime) : Action Uuid :=
  inSession do
    let row ← Prog.ofExcept (repository.newRecord memory memoryId now memory.content
      (repository.sha256 memory.content))
    let _ ← sql (.insertMemory row)
    send .commit
    return memoryId

/-- The flush of a list of turn ids, when it has changed. -/
def flushSourceTurnIds (existing : AssistantMemoryRecord) (sourceTurnIds : List Uuid) :
    Action Unit :=
  if existing.sourceTurnIds = sourceTurnIds then return ()
  else flushUpdate (sql (.updateSourceTurnIds existing.id sourceTurnIds))

/-- The insert of a new fact, when none was found: another session may have inserted it since. -/
def insertUserFact (row : AssistantMemoryRecord) (select : Action (Option AssistantMemoryRecord)) :
    Action (Uuid × Bool) := do
  let committed ← Prog.attempt do
    let _ ← sql (.insertMemory row)
    send .commit
  match committed with
  | .ok _ => return (row.id, true)
  | .error e =>
    if e.kind = "IntegrityError" then
      let _ ← send .rollback
      match ← select with
      | none => Prog.raise e
      | some existing => return (existing.id, false)
    else Prog.raise e

/-- `record_or_get_user_fact`: the id of the record and whether it was created. -/
def recordOrGetUserFact (memory : MemoryRecordWrite) (memoryId : Uuid) (now : DateTime) :
    Action (Uuid × Bool) :=
  match memory.ownerUserId with
  | none => Prog.raise notOwned
  | some ownerUserId =>
    if memory.kind ≠ "conversation_summary" then Prog.raise notOwned
    else
      inSession do
        let contentSha256 := repository.contentHash memory.content
        let select := sql (.selectUserFactForUpdate ownerUserId memory.kind contentSha256)
        match ← select with
        | some existing =>
          flushSourceTurnIds existing (existing.sourceTurnIds ++ memory.sourceTurnIds).eraseDups
          send .commit
          return (existing.id, false)
        | none =>
          let row ← Prog.ofExcept (repository.newRecord memory memoryId now (strip memory.content)
            contentSha256)
          insertUserFact row select
where
  notOwned := PyError.valueError "User fact promotion requires an owned conversation summary"

end MemoryRecordRepository

/-! ## Synchronisation with the vector index -/

structure VectorSyncWorker where
  batchSize : Nat

namespace VectorSyncWorker

/-- What came of a record: its vector is stored, or it is tried again later. -/
inductive SyncOutcome where
  | synced (record : AssistantMemoryRecord) (syncedAt : DateTime)
  | failed (record : AssistantMemoryRecord) (e : PyError)

def optionalId (id : Option Uuid) : Value := Value.optionalStr (id.map Uuid.str)

/-- The vector of a record. -/
def storedVector (record : AssistantMemoryRecord) : StoredVector where
  vectorNamespace := record.vectorNamespace
  vectorId := record.vectorId
  metadata := [
    ("kind", .str record.kind),
    ("owner_user_id", optionalId record.ownerUserId),
    ("site_code", Value.optionalStr record.siteCode),
    ("required_permissions", .list (record.requiredPermissions.map .str)),
    ("source_document_id", optionalId record.sourceDocumentId),
    ("memory_record_id", .str record.id.str),
    ("created_at_epoch", .int (record.createdAt.tdiv DateTime.secondMicros))]

/-- `min(2.0, 0.05 * (2**sync_retry_count))`: an integer of 2^1024 or more does not convert to a
float. The sleep itself changes nothing. -/
def backoff (retryCount : Int) : Except PyError Unit :=
  if 1024 ≤ retryCount then
    .error ⟨"OverflowError", "int too large to convert to float", true⟩
  else .ok ()

/-- One round of the loop over the records. -/
def syncRecord (record : AssistantMemoryRecord) (syncedAt : DateTime) : Action SyncOutcome := do
  let result ← Prog.attempt do
    send (.embed record.content)
    send (.upsert (storedVector record))
  match result with
  | .ok _ => return .synced record syncedAt
  | .error e =>
    if e.isException then
      Prog.ofExcept (backoff (record.syncRetryCount + 1))
      return .failed record e
    else Prog.raise e

/-- The flush of what has changed in a record. -/
def flushOutcome : SyncOutcome → Action Unit
  | .synced record syncedAt => flushUpdate (sql (.markSynced record.id syncedAt))
  | .failed record e => flushUpdate
      (sql (.recordSyncError record.id (record.syncRetryCount + 1)
        (String.ofList (e.message.toList.take 4000))))

/-- `sync_once`; `clock` is the reading after each record. -/
def syncOnce (worker : VectorSyncWorker) (clock : Uuid → DateTime) : Action Nat :=
  inSession do
    let records ← sql (.selectUnsyncedForUpdate worker.batchSize)
    let outcomes ← Prog.foldEach records [] fun outcomes record => do
      let outcome ← syncRecord record (clock record.id)
      return outcomes ++ [outcome]
    Prog.forEach outcomes flushOutcome
    send .commit
    return records.length

end VectorSyncWorker

/-! ## Reconciliation -/

structure ReconciliationJob where
  namespaces : List String

namespace ReconciliationJob

/-- `active_ids_by_namespace[namespace]`. -/
def activeIds (records : List AssistantMemoryRecord) (vectorNamespace : String) : List String :=
  (records.filter (fun record => record.vectorNamespace = vectorNamespace)).map (·.vectorId)

/-- The ids of a namespace that no active record has. -/
def orphanIds (active listed : List String) : List String :=
  listed.filter (fun vectorId => vectorId ∉ active)

/-- One round of the loop over the namespaces. -/
def reconcileNamespace (records : List AssistantMemoryRecord) (deletedCount : Nat)
    (vectorNamespace : String) : Action Nat := do
  let listed ← send (.listIds vectorNamespace)
  let orphans := orphanIds (activeIds records vectorNamespace) listed
  if orphans.isEmpty then return deletedCount
  else
    send (.deleteIds vectorNamespace (orphans.mergeSort (fun a b => decide (a ≤ b))))
    return deletedCount + orphans.length

/-- `reconcile_once`. -/
def reconcileOnce (job : ReconciliationJob) : Action Nat := do
  let records ← inSession (sql .selectLiveMemories)
  Prog.foldEach job.namespaces 0 (reconcileNamespace records)

end ReconciliationJob

/-! ## Deletion of vectors -/

/-- Records under their namespaces, in the order of first occurrence. -/
def groupByNamespace (records : List AssistantMemoryRecord) :
    List (String × List AssistantMemoryRecord) :=
  (records.map (·.vectorNamespace)).eraseDups.map fun vectorNamespace =>
    (vectorNamespace, records.filter (fun record => record.vectorNamespace = vectorNamespace))

theorem mem_groupByNamespace {records : List AssistantMemoryRecord} {record : AssistantMemoryRecord}
    (hrecord : record ∈ records) : (record.vectorNamespace,
      records.filter (fun other => other.vectorNamespace = record.vectorNamespace)) ∈
        groupByNamespace records := by
  refine List.mem_map.mpr ⟨record.vectorNamespace, ?_, rfl⟩
  rw [List.mem_eraseDups]
  exact List.mem_map_of_mem hrecord

/-- The rows whose ids the retention job deletes are the selected ones. -/
theorem mem_deletableRowIds {records : List AssistantMemoryRecord} {id : Uuid} :
    id ∈ (groupByNamespace records).flatMap (fun group => group.2.map (·.id)) ↔
      id ∈ records.map (·.id) := by
  unfold groupByNamespace
  simp only [List.mem_flatMap, List.mem_map, List.mem_eraseDups]
  constructor
  · rintro ⟨_, ⟨_, -, rfl⟩, row, hrow, hid⟩
    exact ⟨row, List.mem_of_mem_filter hrow, hid⟩
  · rintro ⟨row, hrow, hid⟩
    exact ⟨_, ⟨row.vectorNamespace, ⟨row, hrow, rfl⟩, rfl⟩, row,
      List.mem_filter.mpr ⟨hrow, decide_eq_true rfl⟩, hid⟩

/-- `delete_ids` for each namespace; the number of vectors. -/
def deleteVectors (records : List AssistantMemoryRecord) : Action Nat :=
  Prog.foldEach (groupByNamespace records) 0 fun deletedVectors (vectorNamespace, group) => do
    send (.deleteIds vectorNamespace (group.map (·.vectorId)))
    return deletedVectors + group.length

/-! ## Retention -/

structure MemoryRetentionResult where
  softDeletedRecords : Nat
  hardDeletedRecords : Nat
  deletedVectors : Nat
  deletedCandidates : Nat
  deriving DecidableEq

structure MemoryRetentionJob where
  batchSize : Nat

namespace MemoryRetentionJob

variable (job : MemoryRetentionJob)

/-- `_soft_delete_expired`. -/
def softDeleteExpired (now : DateTime) : Action Nat :=
  inSession do
    let expiredRows ← sql (.selectExpiredMemoriesForUpdate now job.batchSize)
    if expiredRows.isEmpty then return 0
    else
      Prog.forEach expiredRows fun row => flushUpdate (sql (.markDeleted row.id now))
      send .commit
      return expiredRows.length

/-- `_delete_soft_deleted_batch`: the numbers of records and of vectors. The vectors go first. -/
def deleteSoftDeletedBatch : Action (Nat × Nat) := do
  let softDeletedRows ← inSession (sql (.selectDeletedMemoriesForUpdate job.batchSize))
  if softDeletedRows.isEmpty then return (0, 0)
  else
    let deletedVectors ← deleteVectors softDeletedRows
    let deletableRowIds :=
      (groupByNamespace softDeletedRows).flatMap (fun group => group.2.map (·.id))
    inSession do
      let _ ← sql (.deleteMemories deletableRowIds)
      send .commit
    return (deletableRowIds.length, deletedVectors)

/-- `_delete_expired_candidates`. -/
def deleteExpiredCandidates (now : DateTime) : Action Nat :=
  inSession do
    let candidates ← sql (.selectExpiredCandidatesForUpdate now job.batchSize)
    Prog.forEach candidates fun candidate => do
      let _ ← sql (.deleteCandidate candidate.id)
    send .commit
    return candidates.length

/-- `purge_once`. -/
def purgeOnce (now : DateTime) : Action MemoryRetentionResult := do
  let softDeletedRecords ← job.softDeleteExpired now
  let (hardDeletedRecords, deletedVectors) ← job.deleteSoftDeletedBatch
  let deletedCandidates ← job.deleteExpiredCandidates now
  return {
    softDeletedRecords := softDeletedRecords
    hardDeletedRecords := hardDeletedRecords
    deletedVectors := deletedVectors
    deletedCandidates := deletedCandidates }

end MemoryRetentionJob

/-! ## Erasure -/

structure EraseUserMemoryResult where
  deletedMemoryRecords : Nat
  deletedVectors : Nat
  deletedTurns : Nat
  deletedConversations : Nat
  deriving DecidableEq

structure UserMemoryEraser where
  hasCheckpointEraser : Bool := false

namespace UserMemoryEraser

/-- The records that are the user's, or derived from the user's turns. -/
def matchedRows (ownerUserId : Uuid) (userTurnIds : List Uuid) (rows : List AssistantMemoryRecord) :
    List AssistantMemoryRecord :=
  rows.filter fun row =>
    row.ownerUserId = some ownerUserId ∨ row.sourceTurnIds.any (fun turnId => turnId ∈ userTurnIds)

/-- The erasure of the checkpoints of some conversations, `sorted(…, key=lambda item: item.int)`. -/
def eraseCheckpoints (eraser : UserMemoryEraser) (ownerUserId : Uuid)
    (conversationIds : List Uuid) : Action Unit :=
  if eraser.hasCheckpointEraser then
    Prog.forEach (conversationIds.mergeSort (fun a b => decide (a.int ≤ b.int)))
      fun conversationId =>
      send (.eraseCheckpoint ownerUserId conversationId)
  else return ()

/-- Step 5: the numbers of turns and conversations. -/
def eraseRows (eraser : UserMemoryEraser) (ownerUserId : Uuid) (memoryIds : List Uuid) :
    Action (Nat × Nat) :=
  inSession do
    ShortTermRetentionJob.unlessEmpty memoryIds (fun ids => sql (.deleteMemories ids))
    let turnIds ← sql (.selectTurnIds ownerUserId)
    ShortTermRetentionJob.unlessEmpty turnIds (fun ids => sql (.deleteTurns ids))
    let conversationIds ← sql (.selectConversationIds ownerUserId)
    eraser.eraseCheckpoints ownerUserId conversationIds
    ShortTermRetentionJob.unlessEmpty conversationIds (fun ids => sql (.deleteConversations ids))
    send .commit
    return (turnIds.length, conversationIds.length)

/-- `erase_user_memory`. -/
def eraseUserMemory (eraser : UserMemoryEraser) (ownerUserId : Uuid) :
    Action EraseUserMemoryResult := do
  let (userTurnIds, memoryRows) ← inSession do
    let userTurnIds ← sql (.selectTurnIds ownerUserId)
    let memoryRows ← sql .selectLiveMemories
    return (userTurnIds, memoryRows)
  let matched := matchedRows ownerUserId userTurnIds memoryRows
  let deletedVectors ← deleteVectors matched
  let (deletedTurns, deletedConversations) ←
    eraser.eraseRows ownerUserId (matched.map (·.id))
  return {
    deletedMemoryRecords := matched.length
    deletedVectors := deletedVectors
    deletedTurns := deletedTurns
    deletedConversations := deletedConversations }

end UserMemoryEraser

/-! ## Fact candidates -/

structure ExtractedFact where
  statement : String
  factClass : String
  evidenceTurnIds : List Uuid
  entityRefs : List String
  explicitlyStated : Bool

structure FactCandidateRepository where
  py : Interpreter
  sha256 : String → String
  retentionDays : Int

namespace FactCandidateRepository

/-- `record_outcome`. -/
def recordOutcome (repository : FactCandidateRepository) (conversationId ownerUserId : Uuid)
    (fact : ExtractedFact) (decision reason : String) (candidateId : Uuid) (now : DateTime) :
    Action Uuid :=
  inSession do
    let _ ← sql (.insertCandidate {
      id := candidateId
      conversationId := conversationId
      ownerUserId := ownerUserId
      statement := fact.statement
      statementSha256 := repository.sha256 (repository.py.lower (strip fact.statement))
      factClass := fact.factClass
      entityRefs := fact.entityRefs
      evidenceTurnIds := fact.evidenceTurnIds
      explicitlyStated := fact.explicitlyStated
      decision := decision
      decisionReason := reason
      promotedMemoryRecordId := none
      createdAt := now
      expiresAt := now + DateTime.days repository.retentionDays })
    send .commit
    return candidateId

/-- `mark_promoted`. -/
def markPromoted (candidateId memoryRecordId : Uuid) : Action Unit :=
  inSession do
    match ← sql (.selectCandidate candidateId) with
    | none => Prog.raise (PyError.valueError "Fact candidate does not exist")
    | some candidate =>
      if candidate.promotedMemoryRecordId = some memoryRecordId then send .commit
      else
        flushUpdate (sql (.setPromotedRecord candidateId memoryRecordId))
        send .commit

end FactCandidateRepository

/-- `FactPromoter.promote`: the record of the fact and whether it is new. -/
def promote (repository : MemoryRecordRepository) (fact : ExtractedFact) (ownerUserId : Uuid)
    (requiredPermissions : List String) (sourceTurnIds : List Uuid) (expiresAtUtc : Option DateTime)
    (memoryId : Uuid) (now : DateTime) : Action (Uuid × Bool) :=
  repository.recordOrGetUserFact {
    kind := "conversation_summary"
    content := fact.statement
    ownerUserId := some ownerUserId
    siteCode := none
    requiredPermissions := requiredPermissions
    sourceTurnIds := sourceTurnIds
    expiresAtUtc := expiresAtUtc } memoryId now

end HotAirBalloon.Memory
