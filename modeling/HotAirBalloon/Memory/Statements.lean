import HotAirBalloon.Library.Resumption
import HotAirBalloon.Memory.Tables

/-!
# Statements and calls of conversation memory

Every SQL statement that the stores and jobs of conversation memory send, with the row locks it
takes and what it does, and the calls they make elsewhere: the embedding client, the vector index
and the checkpoint store. `exec` runs one of them for one process.

Locks follow PostgreSQL: a foreign key check takes a key-share lock on the row it finds, an
update of other columns a no-key-update lock, a delete or `FOR UPDATE` a for-update lock, and an
insert keeps every other session from its unique index entries until it ends.
-/

namespace HotAirBalloon.Memory

open Python Library

inductive Sql where
  | claimConversation (conversationId ownerUserId : Uuid) (observedAt : DateTime)
  | selectOwnedConversation (conversationId ownerUserId : Uuid)
  | advanceConversation (conversationId ownerUserId : Uuid) (touchedAt : DateTime) (increment : Int)
  | closeConversation (conversationId ownerUserId : Uuid) (closedAt : DateTime)
  | selectConversationIds (ownerUserId : Uuid)
  | selectStaleConversations (cutoff : DateTime)
  | deleteConversations (ids : List Uuid)
  | selectIdleForUpdate (cutoff : DateTime) (batchSize : Nat)
  | markConsolidated (id : Uuid) (consolidatedAt : DateTime)
  | selectConversationTurns (conversationId : Uuid)
  | selectRecentTurns (conversationId ownerUserId : Uuid) (limit : Nat)
  | selectTurns (conversationId ownerUserId : Uuid)
  | selectTurnIds (ownerUserId : Uuid)
  | selectExpiredTurns (now : DateTime)
  | insertTurn (row : ConversationTurnRecord)
  | updateTurnExpiry (id : Uuid) (expiresAt : DateTime)
  | deleteTurns (ids : List Uuid)
  | selectRecentEvidence (conversationId ownerUserId : Uuid) (now : DateTime) (limit : Nat)
  | insertEvidence (row : ConversationEvidenceRecord)
  | deleteEvidence (conversationId ownerUserId : Uuid)
  | selectLiveMemories
  | selectUserFactForUpdate (ownerUserId : Uuid) (kind contentSha256 : String)
  | selectUnsyncedForUpdate (batchSize : Nat)
  | selectExpiredMemoriesForUpdate (now : DateTime) (batchSize : Nat)
  | selectDeletedMemoriesForUpdate (batchSize : Nat)
  | insertMemory (row : AssistantMemoryRecord)
  | updateSourceTurnIds (id : Uuid) (sourceTurnIds : List Uuid)
  | markSynced (id : Uuid) (syncedAt : DateTime)
  | recordSyncError (id : Uuid) (retryCount : Int) (message : String)
  | markDeleted (id : Uuid) (deletedAt : DateTime)
  | deleteMemories (ids : List Uuid)
  | selectCandidate (id : Uuid)
  | selectExpiredCandidatesForUpdate (now : DateTime) (batchSize : Nat)
  | insertCandidate (row : AssistantMemoryCandidate)
  | setPromotedRecord (id memoryRecordId : Uuid)
  | deleteCandidate (id : Uuid)

/-- The rows that a statement returns, or how many it matched. -/
abbrev Sql.Reply : Sql → Type
  | claimConversation .. | selectOwnedConversation .. | advanceConversation ..
  | closeConversation .. => Option Uuid
  | selectConversationIds .. | selectTurnIds .. => List Uuid
  | selectStaleConversations .. | selectIdleForUpdate .. => List AssistantConversationRecord
  | selectConversationTurns .. | selectRecentTurns .. | selectTurns .. | selectExpiredTurns .. =>
    List ConversationTurnRecord
  | selectRecentEvidence .. => List ConversationEvidenceRecord
  | selectLiveMemories | selectUnsyncedForUpdate .. | selectExpiredMemoriesForUpdate ..
  | selectDeletedMemoriesForUpdate .. => List AssistantMemoryRecord
  | selectUserFactForUpdate .. => Option AssistantMemoryRecord
  | selectCandidate .. => Option AssistantMemoryCandidate
  | selectExpiredCandidatesForUpdate .. => List AssistantMemoryCandidate
  | deleteConversations .. | markConsolidated .. | insertTurn .. | updateTurnExpiry
    .. | deleteTurns ..
  | insertEvidence .. | deleteEvidence .. | insertMemory .. | updateSourceTurnIds ..
  | markSynced .. | recordSyncError .. | markDeleted .. | deleteMemories ..
  | insertCandidate .. | setPromotedRecord .. | deleteCandidate .. => Nat

/-- `sqlalchemy.exc.IntegrityError` for a constraint. -/
def integrityError (constraint : String) : PyError := ⟨"IntegrityError", constraint, true⟩

/-- What SQLAlchemy makes of a string that is too long for its column. -/
def valueTooLong : PyError :=
  ⟨"DBAPIError", "value too long for type character varying(128)", true⟩

abbrev StatementEffect (α : Type) := Effect PyError LockKey Change α

/-- A statement that only reads. -/
def readEffect {α : Type} (a : α) : StatementEffect α := ⟨[], .ok (a, [])⟩

/-- A statement that locks, and ends with a reply and some changes. -/
def writeEffect {α : Type} (locks : List (LockKey × LockMode)) (a : α) (changes : List Change) :
    StatementEffect α :=
  ⟨locks, .ok (a, changes)⟩

/-- The order of `created_at ASC, id ASC`. -/
def notAfter (a b : DateTime × Uuid) : Bool := a.1 < b.1 ∨ (a.1 = b.1 ∧ a.2.int ≤ b.2.int)

/-! ## Conversations -/

/-- `INSERT … ON CONFLICT (id) DO UPDATE SET last_turn_at = last_turn_at WHERE owner_user_id =
excluded.owner_user_id RETURNING id`. -/
def claimConversation (conversationId ownerUserId : Uuid) (observedAt : DateTime) (t : Tables) :
    StatementEffect (Option Uuid) :=
  match t.conversations.find? conversationId with
  | none => writeEffect [(.conversation conversationId, .forUpdate)] (some conversationId)
      [.conversation (.put {
        id := conversationId
        ownerUserId := ownerUserId
        startedAt := observedAt
        lastTurnAt := observedAt
        turnCount := 0
        consolidatedAt := none
        closedAt := none })]
  | some row =>
    if row.ownerUserId = ownerUserId then
      writeEffect [(.conversation conversationId, .noKeyUpdate)] (some conversationId)
        [.conversation (.put row)]
    else writeEffect [(.conversation conversationId, .noKeyUpdate)] none []

/-- The conversation of an owner, if it is theirs. -/
def ownedConversation (conversationId ownerUserId : Uuid) (t : Tables) :
    Option AssistantConversationRecord :=
  (t.conversations.find? conversationId).filter (fun row => row.ownerUserId = ownerUserId)

/-- `UPDATE … WHERE id = … AND owner_user_id = … RETURNING id`. -/
def updateConversation (conversationId ownerUserId : Uuid)
    (set : AssistantConversationRecord → AssistantConversationRecord) (t : Tables) :
    StatementEffect (Option Uuid) :=
  match ownedConversation conversationId ownerUserId t with
  | none => readEffect none
  | some row => writeEffect [(.conversation conversationId, .noKeyUpdate)] (some conversationId)
      [.conversation (.put (set row))]

/-- `last_turn_at = CASE WHEN last_turn_at < touched_at THEN touched_at ELSE last_turn_at END`,
`turn_count = turn_count + increment`, `closed_at = NULL`. -/
def advanced (touchedAt : DateTime) (increment : Int) (row : AssistantConversationRecord) :
    AssistantConversationRecord :=
  { row with
    lastTurnAt := if row.lastTurnAt < touchedAt then touchedAt else row.lastTurnAt
    turnCount := row.turnCount + increment
    closedAt := none }

/-- Conversations idle since before the cutoff and without turns. -/
def staleConversations (cutoff : DateTime) (t : Tables) : List AssistantConversationRecord :=
  t.conversations.rows.filter fun row =>
    row.lastTurnAt < cutoff ∧ !t.turns.rows.any (fun turn => turn.conversationId = row.id)

/-- `DELETE … WHERE id IN …`, with the turns and the evidence of the conversations. -/
def deleteConversations (ids : List Uuid) (t : Tables) : StatementEffect Nat :=
  let rows := t.conversations.rows.filter (fun row => row.id ∈ ids)
  let owned := rows.map AssistantConversationRecord.ownerKey
  let turns := t.turns.rows.filter (fun turn => turn.ownerKey ∈ owned)
  let evidence := t.evidence.rows.filter (fun row => row.ownerKey ∈ owned)
  writeEffect
    (rows.map (fun row => (.conversation row.id, .forUpdate)) ++
      turns.map (fun turn => (.turn turn.id, .forUpdate)) ++
      evidence.map (fun row => (.evidence row.id, .forUpdate)))
    rows.length
    (turns.map (fun turn => .turn (.erase turn.id)) ++
      evidence.map (fun row => .evidence (.erase row.id)) ++
      rows.map (fun row => .conversation (.erase row.id)))

/-- `ORDER BY last_turn_at ASC` of the conversations that are idle since the cutoff and wait for
consolidation. -/
def idleConversations (cutoff : DateTime) (t : Tables) : List AssistantConversationRecord :=
  (t.conversations.rows.filter fun row =>
    row.consolidatedAt = none ∧ row.lastTurnAt ≤ cutoff ∧ 2 ≤ row.turnCount).insertionSort
      (fun a b => a.lastTurnAt ≤ b.lastTurnAt)

/-- `FOR UPDATE SKIP LOCKED LIMIT …` on ordered conversations. -/
def selectConversationsForUpdate (locked : LockKey → LockMode → Bool)
    (rows : List AssistantConversationRecord) (batchSize : Nat) :
    StatementEffect (List AssistantConversationRecord) :=
  let batch := (rows.filter (fun row => !locked (.conversation row.id) .forUpdate)).take batchSize
  writeEffect (batch.map (fun row => (.conversation row.id, .forUpdate))) batch []

/-- `UPDATE assistant_conversations SET consolidated_at = … WHERE id = …`. -/
def markConsolidated (id : Uuid) (consolidatedAt : DateTime) (t : Tables) : StatementEffect Nat :=
  match t.conversations.find? id with
  | none => readEffect 0
  | some row => writeEffect [(.conversation id, .noKeyUpdate)] 1
      [.conversation (.put { row with consolidatedAt := some consolidatedAt })]

/-! ## Turns and evidence -/

/-- `ORDER BY created_at ASC, id ASC` of the turns of a conversation. -/
def conversationTurns (conversationId : Uuid) (t : Tables) : List ConversationTurnRecord :=
  (t.turns.rows.filter (fun row => row.conversationId = conversationId)).insertionSort
    (fun a b => notAfter (a.createdAt, a.id) (b.createdAt, b.id) = true)

def turnsOf (conversationId ownerUserId : Uuid) (t : Tables) : List ConversationTurnRecord :=
  t.turns.rows.filter (fun row =>
    row.conversationId = conversationId ∧ row.ownerUserId = ownerUserId)

/-- `ORDER BY created_at DESC, id DESC LIMIT …`. -/
def recentTurns (conversationId ownerUserId : Uuid) (limit : Nat) (t : Tables) :
    List ConversationTurnRecord :=
  ((turnsOf conversationId ownerUserId t).mergeSort
    (fun a b => notAfter (b.createdAt, b.id) (a.createdAt, a.id))).take limit

def expiredTurns (now : DateTime) (t : Tables) : List ConversationTurnRecord :=
  t.turns.rows.filter (fun row => row.expiresAt.any (· < now))

/-- The parent row of a composite foreign key `(conversation_id, owner_user_id)`. -/
def hasConversation (ownerKey : Uuid × Uuid) (t : Tables) : Bool :=
  t.conversations.rows.any (fun row => row.ownerKey = ownerKey)

/-- The lock that the foreign key check takes on the parent row, when it finds one. -/
def parentLock (ownerKey : Uuid × Uuid) (t : Tables) : List (LockKey × LockMode) :=
  if hasConversation ownerKey t then [(.conversation ownerKey.1, .keyShare)] else []

def insertTurn (row : ConversationTurnRecord) (t : Tables) : StatementEffect Nat where
  locks := (.turn row.id, .forUpdate) :: parentLock row.ownerKey t
  outcome :=
    if (t.turns.find? row.id).isSome then .error (integrityError "pk_assistant_conversation_turns")
    else if !hasConversation row.ownerKey t then
      .error (integrityError "fk_assistant_conversation_turns_conversation_owner")
    else .ok (1, [.turn (.put row)])

def updateTurnExpiry (id : Uuid) (expiresAt : DateTime) (t : Tables) : StatementEffect Nat :=
  match t.turns.find? id with
  | none => readEffect 0
  | some row => writeEffect [(.turn id, .noKeyUpdate)] 1
      [.turn (.put { row with expiresAt := some expiresAt })]

def deleteTurns (ids : List Uuid) (t : Tables) : StatementEffect Nat :=
  let rows := t.turns.rows.filter (fun row => row.id ∈ ids)
  writeEffect (rows.map (fun row => (.turn row.id, .forUpdate))) rows.length
    (rows.map (fun row => .turn (.erase row.id)))

def evidenceOf (conversationId ownerUserId : Uuid) (t : Tables) : List ConversationEvidenceRecord :=
  t.evidence.rows.filter
    (fun row => row.conversationId = conversationId ∧ row.ownerUserId = ownerUserId)

/-- The evidence that has not expired, `ORDER BY created_at DESC, id DESC LIMIT …`. -/
def recentEvidence (conversationId ownerUserId : Uuid) (now : DateTime) (limit : Nat) (t : Tables) :
    List ConversationEvidenceRecord :=
  (((evidenceOf conversationId ownerUserId t).filter
    (fun row => row.expiresAt.all (now < ·))).mergeSort
    (fun a b => notAfter (b.createdAt, b.id) (a.createdAt, a.id))).take limit

def insertEvidence (row : ConversationEvidenceRecord) (t : Tables) : StatementEffect Nat where
  locks :=
    -- the row is made before anything is locked
    if !row.fits then []
    else (.evidence row.id, .forUpdate) :: (.exchange row.exchangeId, .forUpdate) ::
      parentLock row.ownerKey t
  outcome :=
    if !row.fits then .error valueTooLong
    else if (t.evidence.find? row.id).isSome then
      .error (integrityError "pk_assistant_conversation_evidence")
    else if t.evidence.rows.any (fun other => other.exchangeId = row.exchangeId) then
      .error (integrityError "uq_assistant_conversation_evidence_exchange")
    else if !hasConversation row.ownerKey t then
      .error (integrityError "fk_assistant_conversation_evidence_conversation_owner")
    else .ok (1, [.evidence (.put row)])

def deleteEvidence (conversationId ownerUserId : Uuid) (t : Tables) : StatementEffect Nat :=
  let rows := evidenceOf conversationId ownerUserId t
  writeEffect (rows.map (fun row => (.evidence row.id, .forUpdate))) rows.length
    (rows.map (fun row => .evidence (.erase row.id)))

/-! ## Memory records -/

def isLive (row : AssistantMemoryRecord) : Bool := row.deletedAt.isNone

/-- `FOR UPDATE` on some memory records. -/
def lockMemories (rows : List AssistantMemoryRecord) : List (LockKey × LockMode) :=
  rows.map (fun row => (.memory row.id, .forUpdate))

/-- `FOR UPDATE SKIP LOCKED LIMIT …` on ordered memory records. -/
def selectMemoriesForUpdate (locked : LockKey → LockMode → Bool) (rows : List AssistantMemoryRecord)
    (batchSize : Nat) : StatementEffect (List AssistantMemoryRecord) :=
  let batch := (rows.filter (fun row => !locked (.memory row.id) .forUpdate)).take batchSize
  writeEffect (lockMemories batch) batch []

/-- `ORDER BY created_at ASC`. -/
def oldestFirst (rows : List AssistantMemoryRecord) : List AssistantMemoryRecord :=
  rows.mergeSort (fun a b => decide (a.createdAt ≤ b.createdAt))

def unsyncedMemories (t : Tables) : List AssistantMemoryRecord :=
  oldestFirst (t.memories.rows.filter (fun row => row.syncedAt.isNone && isLive row))

def expiredMemories (now : DateTime) (t : Tables) : List AssistantMemoryRecord :=
  oldestFirst (t.memories.rows.filter (fun row => isLive row && row.expiresAt.any (· < now)))

/-- `ORDER BY deleted_at ASC, id ASC`. -/
def deletedMemories (t : Tables) : List AssistantMemoryRecord :=
  (t.memories.rows.filter (fun row => !isLive row)).mergeSort
    (fun a b => notAfter (a.deletedAt.getD 0, a.id) (b.deletedAt.getD 0, b.id))

def isUserFact (ownerUserId : Uuid) (kind contentSha256 : String) (row : AssistantMemoryRecord) :
    Bool :=
  row.ownerUserId = some ownerUserId ∧ row.kind = kind ∧ row.contentSha256 = contentSha256 ∧
    isLive row

def selectUserFactForUpdate (ownerUserId : Uuid) (kind contentSha256 : String) (t : Tables) :
    StatementEffect (Option AssistantMemoryRecord) :=
  let rows := t.memories.rows.filter (isUserFact ownerUserId kind contentSha256)
  writeEffect (lockMemories rows) rows.head? []

/-- The entry of the partial unique index on active user facts. -/
def userFactLock (row : AssistantMemoryRecord) : List (LockKey × LockMode) :=
  match row.ownerUserId with
  | some ownerUserId =>
    if isLive row then [(.userFact ownerUserId row.kind row.contentSha256, .forUpdate)] else []
  | none => []

/-- Another active fact of the same owner, kind and content. -/
def duplicatesUserFact (row : AssistantMemoryRecord) (t : Tables) : Bool :=
  match row.ownerUserId with
  | some ownerUserId =>
    isLive row && t.memories.rows.any (isUserFact ownerUserId row.kind row.contentSha256)
  | none => false

def insertMemory (row : AssistantMemoryRecord) (t : Tables) : StatementEffect Nat where
  locks := (.memory row.id, .forUpdate) :: (.vector row.vectorId, .forUpdate) :: userFactLock row
  outcome :=
    if (t.memories.find? row.id).isSome then .error (integrityError "pk_assistant_memory_records")
    else if t.memories.rows.any (fun other => other.vectorId = row.vectorId) then
      .error (integrityError "uq_assistant_memory_records_vector_id")
    else if duplicatesUserFact row t then
      .error (integrityError "uq_assistant_memory_records_active_user_fact")
    else .ok (1, [.memory (.put row)])

/-- `UPDATE assistant_memory_records SET … WHERE id = …`. -/
def updateMemory (id : Uuid) (set : AssistantMemoryRecord → AssistantMemoryRecord) (t : Tables) :
    StatementEffect Nat :=
  match t.memories.find? id with
  | none => readEffect 0
  | some row => writeEffect [(.memory id, .noKeyUpdate)] 1 [.memory (.put (set row))]

/-- A fact candidate that was promoted to one of the rows. -/
def referenced (rows : List AssistantMemoryRecord) (t : Tables) : Bool :=
  t.candidates.rows.any fun candidate =>
    rows.any (fun row => candidate.promotedMemoryRecordId = some row.id)

/-- `DELETE … WHERE id IN …`; the foreign key of the fact candidates has no `ON DELETE`. -/
def deleteMemories (ids : List Uuid) (t : Tables) : StatementEffect Nat :=
  let rows := t.memories.rows.filter (fun row => row.id ∈ ids)
  { locks := lockMemories rows
    outcome :=
      if referenced rows t then
        .error (integrityError "fk_assistant_memory_candidates_promoted_memory_record_id")
      else .ok (rows.length, rows.map (fun row => .memory (.erase row.id))) }

/-! ## Fact candidates -/

def expiredCandidates (now : DateTime) (t : Tables) : List AssistantMemoryCandidate :=
  (t.candidates.rows.filter (fun row => row.expiresAt < now)).mergeSort
    (fun a b => decide (a.createdAt ≤ b.createdAt))

def selectCandidatesForUpdate (locked : LockKey → LockMode → Bool)
    (rows : List AssistantMemoryCandidate) (batchSize : Nat) :
    StatementEffect (List AssistantMemoryCandidate) :=
  let batch := (rows.filter (fun row => !locked (.candidate row.id) .forUpdate)).take batchSize
  writeEffect (batch.map (fun row => (.candidate row.id, .forUpdate))) batch []

/-- The lock that a reference to a memory record takes on it, when it exists. -/
def referenceLock (memoryRecordId : Option Uuid) (t : Tables) : List (LockKey × LockMode) :=
  match memoryRecordId with
  | some id => if (t.memories.find? id).isSome then [(.memory id, .keyShare)] else []
  | none => []

/-- A reference to a memory record that does not exist. -/
def dangling (memoryRecordId : Option Uuid) (t : Tables) : Bool :=
  memoryRecordId.any (fun id => (t.memories.find? id).isNone)

def insertCandidate (row : AssistantMemoryCandidate) (t : Tables) : StatementEffect Nat where
  locks := (.candidate row.id, .forUpdate) :: referenceLock row.promotedMemoryRecordId t
  outcome :=
    if (t.candidates.find? row.id).isSome then
      .error (integrityError "pk_assistant_memory_candidates")
    else if dangling row.promotedMemoryRecordId t then
      .error (integrityError "fk_assistant_memory_candidates_promoted_memory_record_id")
    else .ok (1, [.candidate (.put row)])

def setPromotedRecord (id memoryRecordId : Uuid) (t : Tables) : StatementEffect Nat :=
  match t.candidates.find? id with
  | none => readEffect 0
  | some row =>
    { locks := (.candidate id, .noKeyUpdate) :: referenceLock (some memoryRecordId) t
      outcome :=
        if dangling (some memoryRecordId) t then
          .error (integrityError "fk_assistant_memory_candidates_promoted_memory_record_id")
        else .ok (1,
          [.candidate (.put { row with promotedMemoryRecordId := some memoryRecordId })]) }

def deleteCandidate (id : Uuid) (t : Tables) : StatementEffect Nat :=
  match t.candidates.find? id with
  | none => readEffect 0
  | some _ => writeEffect [(.candidate id, .forUpdate)] 1 [.candidate (.erase id)]

/-! ## The statements -/

def Sql.effect (stmt : Sql) (locked : LockKey → LockMode → Bool) (t : Tables) :
    StatementEffect stmt.Reply :=
  match stmt with
  | claimConversation conversationId ownerUserId observedAt =>
    Memory.claimConversation conversationId ownerUserId observedAt t
  | selectOwnedConversation conversationId ownerUserId =>
    readEffect ((ownedConversation conversationId ownerUserId t).map (·.id))
  | advanceConversation conversationId ownerUserId touchedAt increment =>
    updateConversation conversationId ownerUserId (advanced touchedAt increment) t
  | closeConversation conversationId ownerUserId closedAt =>
    updateConversation conversationId ownerUserId (fun row =>
      { row with closedAt := some closedAt }) t
  | selectConversationIds ownerUserId =>
    readEffect ((t.conversations.rows.filter (fun row => row.ownerUserId = ownerUserId)).map (·.id))
  | selectStaleConversations cutoff => readEffect (staleConversations cutoff t)
  | deleteConversations ids => Memory.deleteConversations ids t
  | selectIdleForUpdate cutoff batchSize =>
    selectConversationsForUpdate locked (idleConversations cutoff t) batchSize
  | markConsolidated id consolidatedAt => Memory.markConsolidated id consolidatedAt t
  | selectConversationTurns conversationId => readEffect (conversationTurns conversationId t)
  | selectRecentTurns conversationId ownerUserId limit =>
    readEffect (recentTurns conversationId ownerUserId limit t)
  | selectTurns conversationId ownerUserId => readEffect (turnsOf conversationId ownerUserId t)
  | selectTurnIds ownerUserId =>
    readEffect ((t.turns.rows.filter (fun row => row.ownerUserId = ownerUserId)).map (·.id))
  | selectExpiredTurns now => readEffect (expiredTurns now t)
  | insertTurn row => Memory.insertTurn row t
  | updateTurnExpiry id expiresAt => Memory.updateTurnExpiry id expiresAt t
  | deleteTurns ids => Memory.deleteTurns ids t
  | selectRecentEvidence conversationId ownerUserId now limit =>
    readEffect (recentEvidence conversationId ownerUserId now limit t)
  | insertEvidence row => Memory.insertEvidence row t
  | deleteEvidence conversationId ownerUserId => Memory.deleteEvidence conversationId ownerUserId t
  | selectLiveMemories => readEffect (t.memories.rows.filter isLive)
  | selectUserFactForUpdate ownerUserId kind contentSha256 =>
    Memory.selectUserFactForUpdate ownerUserId kind contentSha256 t
  | selectUnsyncedForUpdate batchSize =>
    selectMemoriesForUpdate locked (unsyncedMemories t) batchSize
  | selectExpiredMemoriesForUpdate now batchSize =>
    selectMemoriesForUpdate locked (expiredMemories now t) batchSize
  | selectDeletedMemoriesForUpdate batchSize =>
    selectMemoriesForUpdate locked (deletedMemories t) batchSize
  | insertMemory row => Memory.insertMemory row t
  | updateSourceTurnIds id sourceTurnIds =>
    updateMemory id (fun row => { row with sourceTurnIds := sourceTurnIds }) t
  | markSynced id syncedAt =>
    updateMemory id (fun row => { row with syncedAt := some syncedAt, syncLastError := none }) t
  | recordSyncError id retryCount message =>
    updateMemory id
      (fun row => { row with syncRetryCount := retryCount, syncLastError := some message }) t
  | markDeleted id deletedAt =>
    updateMemory id (fun row => { row with deletedAt := some deletedAt }) t
  | deleteMemories ids => Memory.deleteMemories ids t
  | selectCandidate id => readEffect (t.candidates.find? id)
  | selectExpiredCandidatesForUpdate now batchSize =>
    selectCandidatesForUpdate locked (expiredCandidates now t) batchSize
  | insertCandidate row => Memory.insertCandidate row t
  | setPromotedRecord id memoryRecordId => Memory.setPromotedRecord id memoryRecordId t
  | deleteCandidate id => Memory.deleteCandidate id t

/-! ## Calls of a process -/

inductive Op where
  | sql (stmt : Sql)
  | commit
  | rollback
  | embed (content : String)
  | upsert (vector : StoredVector)
  | listIds (vectorNamespace : String)
  | deleteIds (vectorNamespace : String) (vectorIds : List String)
  | eraseCheckpoint (ownerUserId conversationId : Uuid)

abbrev Op.Reply : Op → Type
  | sql stmt => stmt.Reply
  | listIds _ => List String
  | commit | rollback | embed _ | upsert _ | deleteIds _ _ | eraseCheckpoint _ _ => Unit

/-- A call that has been made, with its reply. -/
structure Event where
  op : Op
  reply : Except PyError op.Reply

structure World (ι : Type) where
  server : Server ι Tables LockKey Change
  index : VectorIndex
  log : List (ι × Event)

/-- How a call goes: it succeeds or fails on its own account, it is lost on its way and changes
nothing, or it is carried out but its reply is lost. -/
inductive Delivery where
  | arrives
  | lost (e : PyError)
  | late (e : PyError)

section

variable {ι : Type} [DecidableEq ι]

/-- The ids of a namespace. -/
def VectorIndex.ids (index : VectorIndex) (vectorNamespace : String) : List String :=
  (index.rows.filter (fun vector => vector.vectorNamespace = vectorNamespace)).map (·.vectorId)

/-- `delete_ids`. -/
def VectorIndex.deleteIds (index : VectorIndex) (vectorNamespace : String)
    (vectorIds : List String) : VectorIndex :=
  index.filter fun vector =>
    !(vector.vectorNamespace = vectorNamespace ∧ vector.vectorId ∈ vectorIds)

/-- What a call does when it arrives; `none` while it waits for a lock. -/
def carryOut (i : ι) (op : Op) (w : World ι) : Option (Except PyError op.Reply × World ι) :=
  match op with
  | .sql stmt => (w.server.statement Change.apply i stmt.effect).map fun (reply, server) =>
      (reply, { w with server := server })
  | .commit => some (.ok (), { w with server := w.server.commit Change.apply i })
  | .rollback => some (.ok (), { w with server := w.server.rollback i })
  | .embed _ => some (.ok (), w)
  | .upsert vector => some (.ok (), { w with index := w.index.put vector })
  | .listIds vectorNamespace => some (.ok (w.index.ids vectorNamespace), w)
  | .deleteIds vectorNamespace vectorIds =>
    some (.ok (), { w with index := w.index.deleteIds vectorNamespace vectorIds })
  | .eraseCheckpoint _ _ => some (.ok (), w)

/-- A rollback always happens: the server discards the transaction of a session it has lost. -/
def Op.alwaysArrives : Op → Bool
  | rollback => true
  | _ => false

def deliver (i : ι) (op : Op) (delivery : Delivery) (w : World ι) :
    Option (Except PyError op.Reply × World ι) :=
  match delivery with
  | .arrives => carryOut i op w
  | .lost e => if op.alwaysArrives then carryOut i op w else some (.error e, w)
  | .late e =>
    if op.alwaysArrives then carryOut i op w
    else (carryOut i op w).map fun (_, w') => (.error e, w')

/-- One call of a process, with its entry in the log. -/
def exec : Exec ι PyError Op Op.Reply Delivery (World ι) := fun i op delivery w =>
  (deliver i op delivery w).map fun (reply, w') =>
    (reply, { w' with log := w'.log ++ [(i, ⟨op, reply⟩)] })

end

/-- Programs of the stores and jobs. -/
abbrev Action (α : Type) := Prog PyError Op Op.Reply α

def sql (stmt : Sql) : Action stmt.Reply := Prog.perform (Op.sql stmt)

def send (op : Op) : Action op.Reply := Prog.perform op

/-- `async with session_factory() as session`: the session is closed at the end, which raises
nothing. -/
def inSession {α : Type} (body : Action α) : Action α := do
  let result ← body.attempt
  let _ ← (send .rollback).attempt
  Prog.ofExcept result

/-- `async with session_factory() as session, session.begin()`: the transaction is committed
after the body and rolled back when it raises. -/
def transaction {α : Type} (body : Action α) : Action α :=
  inSession do
    let a ← body
    send .commit
    return a

end HotAirBalloon.Memory
