import HotAirBalloon.Evidence.Snapshot
import HotAirBalloon.Memory.Statements

/-!
# The conversation store and short-term retention

`short_term/postgres_conversation_store.py` and `short_term_retention_job.py`. The session factory
sets `autoflush=False`, so rows that are added to a session, or changed in it, are sent when the
transaction ends, after the statements of its body. Values of `uuid4()` and `datetime.now(UTC)`
are arguments.
-/

namespace HotAirBalloon.Memory

open Python Library Evidence

structure ConversationTurn where
  role : String
  content : String
  createdAtUtc : DateTime
  deriving DecidableEq

/-- `ConversationOwnershipError()`. -/
def conversationOwnershipError : PyError :=
  ⟨"ConversationOwnershipError", "The requested conversation was not found.", true⟩

/-- `StaleDataError`: an update of a loaded row matched no row. -/
def staleDataError : PyError :=
  ⟨"StaleDataError", "UPDATE statement on table expected to update 1 row(s); 0 were matched.", true⟩

/-- An `UPDATE` of a loaded row, when the session is flushed. -/
def flushUpdate (update : Action Nat) : Action Unit := do
  let matched ← update
  if matched = 1 then return () else Prog.raise staleDataError

/-- Raise unless a statement returned a row. -/
def requireRow (row : Option Uuid) : Action Unit :=
  match row with
  | none => Prog.raise conversationOwnershipError
  | some _ => return ()

/-- What a JSON column does to a document, the interpreter, and the retention of the store. -/
structure ConversationStore where
  py : Interpreter
  jsonColumn : Dict Value → Dict Value
  retentionDays : Int := 90

namespace ConversationStore

/-! ## The steps that the operations share -/

/-- `_claim_or_validate`. -/
def claimOrValidateIn (conversationId ownerUserId : Uuid) (observedAtUtc : DateTime) :
    Action Unit := do
  requireRow (← sql (.claimConversation conversationId ownerUserId observedAtUtc))

/-- `_require_owner`. -/
def requireOwner (conversationId ownerUserId : Uuid) : Action Unit := do
  requireRow (← sql (.selectOwnedConversation conversationId ownerUserId))

/-- `_advance_conversation`. -/
def advanceConversation (conversationId ownerUserId : Uuid) (touchedAt : DateTime)
    (turnCountIncrement : Int) : Action Unit := do
  requireRow (← sql (.advanceConversation conversationId ownerUserId touchedAt turnCountIncrement))

variable (store : ConversationStore)

/-- `_turn_record`. -/
def turnRecord (id conversationId ownerUserId : Uuid) (turn : ConversationTurn) :
    ConversationTurnRecord where
  id := id
  conversationId := conversationId
  ownerUserId := ownerUserId
  role := turn.role
  content := turn.content
  createdAt := turn.createdAtUtc
  expiresAt := some (turn.createdAtUtc + DateTime.days store.retentionDays)

/-- `_evidence_record`. -/
def evidenceRecord (id : Uuid) (snapshot : ConversationEvidenceSnapshot) :
    Except PyError ConversationEvidenceRecord := do
  let payload ← snapshot.toJson store.py
  return {
    id := id
    conversationId := snapshot.conversationId
    ownerUserId := snapshot.ownerUserId
    exchangeId := snapshot.exchangeId
    toolName := snapshot.toolName
    schemaVersion := snapshot.schemaVersion
    evidenceJson := store.jsonColumn payload
    createdAt := snapshot.createdAtUtc
    expiresAt := snapshot.expiresAtUtc }

/-- The turn as it is returned. -/
def turnOf (record : ConversationTurnRecord) : ConversationTurn :=
  ⟨record.role, record.content, record.createdAt⟩

/-- `ConversationEvidenceSnapshot.from_json(…)` on a row. -/
def snapshotOf (record : ConversationEvidenceRecord) :
    Except PyError ConversationEvidenceSnapshot :=
  fromJson store.py record.conversationId record.ownerUserId record.createdAt record.expiresAt
    record.evidenceJson

/-! ## Operations -/

/-- `claim_or_validate`. -/
def claimOrValidate (conversationId ownerUserId : Uuid) (observedAtUtc : DateTime) : Action Unit :=
  transaction (claimOrValidateIn conversationId ownerUserId observedAtUtc)

/-- `read_recent`. -/
def readRecent (conversationId ownerUserId : Uuid) (limit : Int) :
    Action (List ConversationTurn) := do
  let records ← inSession do
    requireOwner conversationId ownerUserId
    if limit ≤ 0 then return []
    else sql (.selectRecentTurns conversationId ownerUserId limit.toNat)
  return records.reverse.map turnOf

/-- `append`. -/
def append (conversationId : Uuid) (turn : ConversationTurn) (ownerUserId turnId : Uuid) :
    Action Unit :=
  transaction do
    claimOrValidateIn conversationId ownerUserId turn.createdAtUtc
    let record := store.turnRecord turnId conversationId ownerUserId turn
    advanceConversation conversationId ownerUserId turn.createdAtUtc 1
    let _ ← sql (.insertTurn record)

/-- `session.add` of the evidence of an exchange, if there is any. -/
def evidenceRecord? (id : Uuid) (evidence : Option ConversationEvidenceSnapshot) :
    Except PyError (Option ConversationEvidenceRecord) :=
  match evidence with
  | none => return none
  | some snapshot => return some (← store.evidenceRecord id snapshot)

/-- The insert of the evidence of an exchange, if there is any. -/
def insertEvidence? (record : Option ConversationEvidenceRecord) : Action Unit :=
  match record with
  | none => return ()
  | some row => do
    let _ ← sql (.insertEvidence row)

/-- `append_completed_exchange`. -/
def appendCompletedExchange (conversationId ownerUserId : Uuid)
    (userTurn assistantTurn : ConversationTurn) (evidence : Option ConversationEvidenceSnapshot)
    (userTurnId assistantTurnId evidenceId : Uuid) : Action Unit :=
  if userTurn.role ≠ "user" ∨ assistantTurn.role ≠ "assistant" then
    Prog.raise (PyError.valueError
      "A completed exchange requires one user and one assistant turn")
  else
    transaction do
      claimOrValidateIn conversationId ownerUserId userTurn.createdAtUtc
      let userRecord := store.turnRecord userTurnId conversationId ownerUserId userTurn
      let assistantRecord :=
        store.turnRecord assistantTurnId conversationId ownerUserId assistantTurn
      let evidenceRow ← Prog.ofExcept (store.evidenceRecord? evidenceId evidence)
      advanceConversation conversationId ownerUserId assistantTurn.createdAtUtc 2
      let _ ← sql (.insertTurn userRecord)
      let _ ← sql (.insertTurn assistantRecord)
      insertEvidence? evidenceRow

/-- `read_recent_evidence`. -/
def readRecentEvidence (conversationId ownerUserId : Uuid) (limit : Int) (now : DateTime) :
    Action (List ConversationEvidenceSnapshot) := do
  let records ← inSession do
    requireOwner conversationId ownerUserId
    if limit ≤ 0 then return []
    else sql (.selectRecentEvidence conversationId ownerUserId now limit.toNat)
  Prog.ofExcept (records.reverse.mapM store.snapshotOf)

/-- `append_evidence`. -/
def appendEvidence (snapshot : ConversationEvidenceSnapshot) (evidenceId : Uuid) : Action Unit :=
  transaction do
    requireOwner snapshot.conversationId snapshot.ownerUserId
    let row ← Prog.ofExcept (store.evidenceRecord evidenceId snapshot)
    let _ ← sql (.insertEvidence row)

/-- `erase_evidence`. -/
def eraseEvidence (conversationId ownerUserId : Uuid) : Action Nat :=
  transaction do
    requireOwner conversationId ownerUserId
    sql (.deleteEvidence conversationId ownerUserId)

/-- The turns that get another expiry, with it: an attribute that is set to its own value is not
flushed. -/
def newExpiries (rows : List ConversationTurnRecord) : List (Uuid × DateTime) :=
  (rows.map fun row => (row, row.createdAt + DateTime.days store.retentionDays)).filterMap
    fun (row, expiresAt) =>
      if row.expiresAt = some expiresAt then none else some (row.id, expiresAt)

/-- `close_conversation`. -/
def closeConversation (conversationId ownerUserId : Uuid) (now : DateTime) : Action Unit :=
  transaction do
    requireOwner conversationId ownerUserId
    let rows ← sql (.selectTurns conversationId ownerUserId)
    requireRow (← sql (.closeConversation conversationId ownerUserId now))
    Prog.forEach (store.newExpiries rows) fun (id, expiresAt) =>
      flushUpdate (sql (.updateTurnExpiry id expiresAt))

end ConversationStore

/-! ## Short-term retention -/

structure ShortTermRetentionJob where
  assistantConversationRetentionDays : Int := 180
  hasCheckpointEraser : Bool := false

namespace ShortTermRetentionJob

/-- `sorted(conversations, key=lambda item: (item[0].int, item[1].int))` of a set. -/
def sortedConversations (conversations : List (Uuid × Uuid)) : List (Uuid × Uuid) :=
  conversations.dedup.mergeSort fun a b =>
    a.1.int < b.1.int ∨ (a.1 = b.1 ∧ a.2.int ≤ b.2.int)

/-- `_erase_checkpoints`. -/
def eraseCheckpoints (job : ShortTermRetentionJob) (conversations : List (Uuid × Uuid)) :
    Action Unit :=
  if job.hasCheckpointEraser then
    Prog.forEach (sortedConversations conversations) fun (ownerUserId, conversationId) =>
      send (.eraseCheckpoint ownerUserId conversationId)
  else return ()

/-- A statement that is only sent for a nonempty list of ids. -/
def unlessEmpty (ids : List Uuid) (stmt : List Uuid → Action Nat) : Action Unit :=
  if ids.isEmpty then return ()
  else do
    let _ ← stmt ids

/-- `purge_expired`, at a reading of the clock. -/
def purgeExpired (job : ShortTermRetentionJob) (now : DateTime) : Action Nat :=
  inSession do
    let expiredRows ← sql (.selectExpiredTurns now)
    let expiredIds := expiredRows.map (·.id)
    unlessEmpty expiredIds (fun ids => sql (.deleteTurns ids))
    let conversationRows ← sql
      (.selectStaleConversations (now - DateTime.days job.assistantConversationRetentionDays))
    let staleConversationIds := conversationRows.map (·.id)
    job.eraseCheckpoints (expiredRows.map (fun row => (row.ownerUserId, row.conversationId)) ++
      conversationRows.map (fun row => (row.ownerUserId, row.id)))
    unlessEmpty staleConversationIds (fun ids => sql (.deleteConversations ids))
    send .commit
    return expiredIds.length

end ShortTermRetentionJob

end HotAirBalloon.Memory
