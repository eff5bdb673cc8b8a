import HotAirBalloon.Library.ReadCommitted
import HotAirBalloon.Library.Table
import HotAirBalloon.Python.DateTime
import HotAirBalloon.Python.Uuid
import HotAirBalloon.Python.Value

/-!
# The tables of conversation memory

The records of `conversation_memory/models.py` and `long_term/models.py`, the rows that a
transaction changes, and the vector index. Rows are kept under their primary keys; foreign keys
and unique indexes are checked by the statements that can violate them.
-/

namespace HotAirBalloon.Memory

open Python Library

structure AssistantConversationRecord where
  id : Uuid
  ownerUserId : Uuid
  startedAt : DateTime
  lastTurnAt : DateTime
  turnCount : Int
  consolidatedAt : Option DateTime
  closedAt : Option DateTime
  deriving DecidableEq

structure ConversationTurnRecord where
  id : Uuid
  conversationId : Uuid
  ownerUserId : Uuid
  role : String
  content : String
  createdAt : DateTime
  expiresAt : Option DateTime
  deriving DecidableEq

structure ConversationEvidenceRecord where
  id : Uuid
  conversationId : Uuid
  ownerUserId : Uuid
  exchangeId : Uuid
  toolName : String
  schemaVersion : Int
  evidenceJson : Dict Value
  createdAt : DateTime
  expiresAt : Option DateTime

/-- The width of `tool_name`. -/
def ConversationEvidenceRecord.fits (row : ConversationEvidenceRecord) : Bool :=
  row.toolName.length ≤ 128

structure AssistantMemoryRecord where
  id : Uuid
  kind : String
  ownerUserId : Option Uuid
  siteCode : Option String
  requiredPermissions : List String
  content : String
  contentSha256 : String
  sourceTurnIds : List Uuid
  sourceDocumentId : Option Uuid
  vectorNamespace : String
  vectorId : String
  embeddingModel : String
  createdAt : DateTime
  expiresAt : Option DateTime
  syncedAt : Option DateTime := none
  deletedAt : Option DateTime := none
  syncRetryCount : Int := 0
  syncLastError : Option String := none
  deriving DecidableEq

structure AssistantMemoryCandidate where
  id : Uuid
  conversationId : Uuid
  ownerUserId : Uuid
  statement : String
  statementSha256 : String
  factClass : String
  entityRefs : List String
  evidenceTurnIds : List Uuid
  explicitlyStated : Bool
  decision : String
  decisionReason : String
  promotedMemoryRecordId : Option Uuid
  createdAt : DateTime
  expiresAt : DateTime
  deriving DecidableEq

/-- A vector of the index, with the metadata it was stored with. -/
structure StoredVector where
  vectorNamespace : String
  vectorId : String
  metadata : Dict Value

def StoredVector.key (vector : StoredVector) : String × String :=
  (vector.vectorNamespace, vector.vectorId)

/-- The key of a record's vector. -/
def AssistantMemoryRecord.vectorKey (record : AssistantMemoryRecord) : String × String :=
  (record.vectorNamespace, record.vectorId)

/-- A conversation and its owner, the columns of the composite foreign keys. -/
def AssistantConversationRecord.ownerKey (row : AssistantConversationRecord) : Uuid × Uuid :=
  (row.id, row.ownerUserId)

def ConversationTurnRecord.ownerKey (row : ConversationTurnRecord) : Uuid × Uuid :=
  (row.conversationId, row.ownerUserId)

def ConversationEvidenceRecord.ownerKey (row : ConversationEvidenceRecord) : Uuid × Uuid :=
  (row.conversationId, row.ownerUserId)

-- The two kinds of key are compared in many definitions.
instance vectorKey_lawfulBEq : LawfulBEq (String × String) := inferInstance

instance ownerKey_lawfulBEq : LawfulBEq (Uuid × Uuid) := inferInstance

structure Tables where
  conversations : Table AssistantConversationRecord.id
  turns : Table ConversationTurnRecord.id
  evidence : Table ConversationEvidenceRecord.id
  memories : Table AssistantMemoryRecord.id
  candidates : Table AssistantMemoryCandidate.id

def Tables.empty : Tables := ⟨.empty, .empty, .empty, .empty, .empty⟩

abbrev VectorIndex := Table StoredVector.key

/-! ## Changes -/

/-- A row that a transaction has written or removed. -/
inductive Change where
  | conversation (edit : Edit AssistantConversationRecord.id)
  | turn (edit : Edit ConversationTurnRecord.id)
  | evidence (edit : Edit ConversationEvidenceRecord.id)
  | memory (edit : Edit AssistantMemoryRecord.id)
  | candidate (edit : Edit AssistantMemoryCandidate.id)

namespace Change

def apply (change : Change) (t : Tables) : Tables :=
  match change with
  | conversation edit => { t with conversations := t.conversations.applyEdit edit }
  | turn edit => { t with turns := t.turns.applyEdit edit }
  | evidence edit => { t with evidence := t.evidence.applyEdit edit }
  | memory edit => { t with memories := t.memories.applyEdit edit }
  | candidate edit => { t with candidates := t.candidates.applyEdit edit }

def conversation? : Change → Option (Edit AssistantConversationRecord.id)
  | conversation edit => some edit
  | _ => none

def turn? : Change → Option (Edit ConversationTurnRecord.id)
  | turn edit => some edit
  | _ => none

def evidence? : Change → Option (Edit ConversationEvidenceRecord.id)
  | evidence edit => some edit
  | _ => none

def memory? : Change → Option (Edit AssistantMemoryRecord.id)
  | memory edit => some edit
  | _ => none

def candidate? : Change → Option (Edit AssistantMemoryCandidate.id)
  | candidate edit => some edit
  | _ => none

end Change

/-- The rows and unique index entries that statements lock. -/
inductive LockKey where
  | conversation (id : Uuid)
  | turn (id : Uuid)
  | evidence (id : Uuid)
  | exchange (exchangeId : Uuid)
  | memory (id : Uuid)
  | vector (vectorId : String)
  | userFact (ownerUserId : Uuid) (kind contentSha256 : String)
  | candidate (id : Uuid)
  deriving DecidableEq

/-! ## One table after some changes -/

section

open Server

variable (changes : List Change) (t : Tables)

theorem conversations_applyAll : (applyAll Change.apply changes t).conversations =
    t.conversations.applyEdits (changes.filterMap Change.conversation?) := by
  induction changes generalizing t with
  | nil => rfl
  | cons change rest ih =>
    refine (ih (change.apply t)).trans ?_
    cases change <;> rfl

theorem turns_applyAll : (applyAll Change.apply changes t).turns =
    t.turns.applyEdits (changes.filterMap Change.turn?) := by
  induction changes generalizing t with
  | nil => rfl
  | cons change rest ih =>
    refine (ih (change.apply t)).trans ?_
    cases change <;> rfl

theorem evidence_applyAll : (applyAll Change.apply changes t).evidence =
    t.evidence.applyEdits (changes.filterMap Change.evidence?) := by
  induction changes generalizing t with
  | nil => rfl
  | cons change rest ih =>
    refine (ih (change.apply t)).trans ?_
    cases change <;> rfl

theorem memories_applyAll : (applyAll Change.apply changes t).memories =
    t.memories.applyEdits (changes.filterMap Change.memory?) := by
  induction changes generalizing t with
  | nil => rfl
  | cons change rest ih =>
    refine (ih (change.apply t)).trans ?_
    cases change <;> rfl

theorem candidates_applyAll : (applyAll Change.apply changes t).candidates =
    t.candidates.applyEdits (changes.filterMap Change.candidate?) := by
  induction changes generalizing t with
  | nil => rfl
  | cons change rest ih =>
    refine (ih (change.apply t)).trans ?_
    cases change <;> rfl

theorem mem_filterMap_conversation? {edit : Edit AssistantConversationRecord.id} :
    edit ∈ changes.filterMap Change.conversation? ↔ Change.conversation edit ∈ changes := by
  rw [List.mem_filterMap]
  constructor
  · rintro ⟨change, hchange, heq⟩
    cases change <;> cases heq
    exact hchange
  · exact fun h => ⟨_, h, rfl⟩

theorem mem_filterMap_turn? {edit : Edit ConversationTurnRecord.id} :
    edit ∈ changes.filterMap Change.turn? ↔ Change.turn edit ∈ changes := by
  rw [List.mem_filterMap]
  constructor
  · rintro ⟨change, hchange, heq⟩
    cases change <;> cases heq
    exact hchange
  · exact fun h => ⟨_, h, rfl⟩

theorem mem_filterMap_evidence? {edit : Edit ConversationEvidenceRecord.id} :
    edit ∈ changes.filterMap Change.evidence? ↔ Change.evidence edit ∈ changes := by
  rw [List.mem_filterMap]
  constructor
  · rintro ⟨change, hchange, heq⟩
    cases change <;> cases heq
    exact hchange
  · exact fun h => ⟨_, h, rfl⟩

theorem mem_filterMap_memory? {edit : Edit AssistantMemoryRecord.id} :
    edit ∈ changes.filterMap Change.memory? ↔ Change.memory edit ∈ changes := by
  rw [List.mem_filterMap]
  constructor
  · rintro ⟨change, hchange, heq⟩
    cases change <;> cases heq
    exact hchange
  · exact fun h => ⟨_, h, rfl⟩

end

end HotAirBalloon.Memory
