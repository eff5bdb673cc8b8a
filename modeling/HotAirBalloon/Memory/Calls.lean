import HotAirBalloon.Memory.LongTerm

/-!
# Calls of conversation memory

Every operation of the stores and jobs as one type of calls, and the system in which any number of
calls run at once over one server and one vector index.
-/

namespace HotAirBalloon.Memory

open Python Library Evidence

/-- The stores and jobs, as they are wired. -/
structure Components where
  store : ConversationStore
  shortTermRetention : ShortTermRetentionJob
  repository : MemoryRecordRepository
  syncWorker : VectorSyncWorker
  reconciliation : ReconciliationJob
  memoryRetention : MemoryRetentionJob
  eraser : UserMemoryEraser
  candidates : FactCandidateRepository

/-- The components as `container.py` wires them with the default settings. -/
def Components.wired (py : Interpreter) (sha256 : String → String)
    (jsonColumn : Dict Value → Dict Value) : Components where
  store := { py := py, jsonColumn := jsonColumn }
  shortTermRetention := {}
  repository := {
    py := py
    sha256 := sha256
    embeddingModel := "text-embedding-3-small"
    userMemoryNamespace := "user-memory"
    documentsNamespace := "documents" }
  syncWorker := ⟨64⟩
  reconciliation := ⟨["user-memory", "documents"]⟩
  memoryRetention := ⟨64⟩
  eraser := {}
  candidates := { py := py, sha256 := sha256, retentionDays := 30 }

/-- A call with its arguments, the clock readings and the fresh ids it draws. -/
inductive Call where
  | claimOrValidate (conversationId ownerUserId : Uuid) (observedAtUtc : DateTime)
  | readRecent (conversationId ownerUserId : Uuid) (limit : Int)
  | append (conversationId : Uuid) (turn : ConversationTurn) (ownerUserId turnId : Uuid)
  | appendCompletedExchange (conversationId ownerUserId : Uuid)
      (userTurn assistantTurn : ConversationTurn) (evidence : Option ConversationEvidenceSnapshot)
      (userTurnId assistantTurnId evidenceId : Uuid)
  | readRecentEvidence (conversationId ownerUserId : Uuid) (limit : Int) (now : DateTime)
  | appendEvidence (snapshot : ConversationEvidenceSnapshot) (evidenceId : Uuid)
  | eraseEvidence (conversationId ownerUserId : Uuid)
  | closeConversation (conversationId ownerUserId : Uuid) (now : DateTime)
  | purgeExpired (now : DateTime)
  | record (memory : MemoryRecordWrite) (memoryId : Uuid) (now : DateTime)
  | recordOrGetUserFact (memory : MemoryRecordWrite) (memoryId : Uuid) (now : DateTime)
  | syncOnce (clock : Uuid → DateTime)
  | reconcileOnce
  | purgeOnce (now : DateTime)
  | eraseUserMemory (ownerUserId : Uuid)
  | recordOutcome (conversationId ownerUserId : Uuid) (fact : ExtractedFact)
      (decision reason : String) (candidateId : Uuid) (now : DateTime)
  | markPromoted (candidateId memoryRecordId : Uuid)

inductive CallResult where
  | done
  | count (n : Nat)
  | turns (turns : List ConversationTurn)
  | evidence (snapshots : List ConversationEvidenceSnapshot)
  | recordId (id : Uuid)
  | fact (id : Uuid) (created : Bool)
  | retained (result : MemoryRetentionResult)
  | erased (result : EraseUserMemoryResult)
  deriving DecidableEq

def CallResult.turns? : CallResult → Option (List ConversationTurn)
  | .turns recent => some recent
  | _ => none

theorem CallResult.turns?_eq_some {result : CallResult} {recent : List ConversationTurn} :
    result.turns? = some recent ↔ result = .turns recent := by
  cases result <;> simp [CallResult.turns?]

/-- The program of a call. -/
def Call.program (components : Components) : Call → Action CallResult
  | claimOrValidate conversationId ownerUserId observedAtUtc => do
    ConversationStore.claimOrValidate conversationId ownerUserId observedAtUtc
    return .done
  | readRecent conversationId ownerUserId limit => do
    return .turns (← ConversationStore.readRecent conversationId ownerUserId limit)
  | append conversationId turn ownerUserId turnId => do
    components.store.append conversationId turn ownerUserId turnId
    return .done
  | appendCompletedExchange conversationId ownerUserId userTurn assistantTurn evidence userTurnId
      assistantTurnId evidenceId => do
    components.store.appendCompletedExchange conversationId ownerUserId userTurn
      assistantTurn evidence userTurnId assistantTurnId evidenceId
    return .done
  | readRecentEvidence conversationId ownerUserId limit now => do
    return .evidence
      (← components.store.readRecentEvidence conversationId ownerUserId limit now)
  | appendEvidence snapshot evidenceId => do
    components.store.appendEvidence snapshot evidenceId
    return .done
  | eraseEvidence conversationId ownerUserId => do
    return .count (← ConversationStore.eraseEvidence conversationId ownerUserId)
  | closeConversation conversationId ownerUserId now => do
    components.store.closeConversation conversationId ownerUserId now
    return .done
  | purgeExpired now => do
    return .count (← components.shortTermRetention.purgeExpired now)
  | record memory memoryId now => do
    return .recordId (← components.repository.record memory memoryId now)
  | recordOrGetUserFact memory memoryId now => do
    let (id, created) ← components.repository.recordOrGetUserFact memory memoryId now
    return .fact id created
  | syncOnce clock => do
    return .count (← components.syncWorker.syncOnce clock)
  | reconcileOnce => do
    return .count (← components.reconciliation.reconcileOnce)
  | purgeOnce now => do
    return .retained (← components.memoryRetention.purgeOnce now)
  | eraseUserMemory ownerUserId => do
    return .erased (← components.eraser.eraseUserMemory ownerUserId)
  | recordOutcome conversationId ownerUserId fact decision reason candidateId now => do
    return .recordId (← components.candidates.recordOutcome conversationId ownerUserId fact decision
      reason candidateId now)
  | markPromoted candidateId memoryRecordId => do
    FactCandidateRepository.markPromoted candidateId memoryRecordId
    return .done

abbrev System (ι : Type) := Config ι PyError Op Op.Reply (World ι) CallResult

/-- A world with no transaction open and nothing logged. -/
def World.idle {ι : Type} (tables : Tables) (index : VectorIndex) : World ι :=
  ⟨.idle tables, index, []⟩

/-- The calls of a family, none of which has started. -/
def System.start {ι : Type} (components : Components) (call : ι → Call) (w : World ι) : System ι :=
  ⟨w, fun i => (call i).program components⟩

end HotAirBalloon.Memory
