import Mathlib.Data.List.DropRight
import HotAirBalloon.Memory.Alone

/-!
# The in-memory conversation store

`in_memory/inmemory_conversation_store.py`: three dicts under one lock. Every operation raises
before its first write, so an operation is a function from the store to an error or to its result
and the store after it. The calls that both stores answer are one type; what the PostgreSQL store
draws besides, the ids of its rows and the time, stays apart.
-/

namespace HotAirBalloon.Memory

open Python Library Evidence

structure InMemoryConversationStore where
  maxTurnsPerConversation : Int := 5
  state : Uuid → List ConversationTurn := fun _ => []
  evidence : Uuid → List ConversationEvidenceSnapshot := fun _ => []
  owners : Uuid → Option Uuid := fun _ => none

namespace InMemoryConversationStore

variable (store : InMemoryConversationStore)

/-! ## The steps that the operations share -/

/-- `_claim_or_validate`. -/
def claimOrValidateIn (conversationId ownerUserId : Uuid) :
    Except PyError InMemoryConversationStore :=
  match store.owners conversationId with
  | none => .ok { store with
      owners := Function.update store.owners conversationId (some ownerUserId) }
  | some existingOwner =>
    if existingOwner ≠ ownerUserId then .error conversationOwnershipError else .ok store

/-- `_require_owner`. -/
def requireOwner (conversationId ownerUserId : Uuid) : Except PyError Unit :=
  if store.owners conversationId ≠ some ownerUserId then .error conversationOwnershipError
  else .ok ()

/-- `self._state[conversation_id].extend(turns)`. -/
def extendTurns (conversationId : Uuid) (turns : List ConversationTurn) :
    InMemoryConversationStore :=
  { store with
    state := Function.update store.state conversationId (store.state conversationId ++ turns) }

/-- `self._evidence[conversation_id].append(snapshot)`. -/
def addEvidence (conversationId : Uuid) (snapshot : ConversationEvidenceSnapshot) :
    InMemoryConversationStore :=
  { store with
    evidence := Function.update store.evidence conversationId
      (store.evidence conversationId ++ [snapshot]) }

/-- `_trim`. -/
def trim (conversationId : Uuid) : InMemoryConversationStore :=
  let turns := store.state conversationId
  if (turns.length : Int) ≤ store.maxTurnsPerConversation then store
  else
    let overflow := turns.length - store.maxTurnsPerConversation
    { store with
      state := Function.update store.state conversationId (turns.drop overflow.toNat) }

/-! ## Operations -/

/-- `claim_or_validate`; the time is not kept. -/
def claimOrValidate (conversationId ownerUserId : Uuid) :
    Except PyError InMemoryConversationStore :=
  store.claimOrValidateIn conversationId ownerUserId

/-- `read_recent`: `[-limit:]` for a positive limit. -/
def readRecent (conversationId ownerUserId : Uuid) (limit : Int) :
    Except PyError (List ConversationTurn) := do
  store.requireOwner conversationId ownerUserId
  if limit ≤ 0 then return [] else return (store.state conversationId).rtake limit.toNat

/-- `append`. -/
def append (conversationId : Uuid) (turn : ConversationTurn) (ownerUserId : Uuid) :
    Except PyError InMemoryConversationStore := do
  let claimed ← store.claimOrValidateIn conversationId ownerUserId
  return (claimed.extendTurns conversationId [turn]).trim conversationId

/-- `append_completed_exchange`. -/
def appendCompletedExchange (conversationId ownerUserId : Uuid)
    (userTurn assistantTurn : ConversationTurn) (evidence : Option ConversationEvidenceSnapshot) :
    Except PyError InMemoryConversationStore :=
  if userTurn.role ≠ "user" ∨ assistantTurn.role ≠ "assistant" then
    .error (PyError.valueError
      "A completed exchange requires one user and one assistant turn")
  else do
    let claimed ← store.claimOrValidateIn conversationId ownerUserId
    let appended :=
      (claimed.extendTurns conversationId [userTurn, assistantTurn]).trim conversationId
    match evidence with
    | none => return appended
    | some snapshot => return appended.addEvidence conversationId snapshot

/-- `read_recent_evidence`. -/
def readRecentEvidence (conversationId ownerUserId : Uuid) (limit : Int) :
    Except PyError (List ConversationEvidenceSnapshot) := do
  store.requireOwner conversationId ownerUserId
  if limit ≤ 0 then return [] else return (store.evidence conversationId).rtake limit.toNat

/-- `append_evidence`. -/
def appendEvidence (snapshot : ConversationEvidenceSnapshot) :
    Except PyError InMemoryConversationStore := do
  store.requireOwner snapshot.conversationId snapshot.ownerUserId
  return store.addEvidence snapshot.conversationId snapshot

/-- `erase_evidence`. -/
def eraseEvidence (conversationId ownerUserId : Uuid) :
    Except PyError (Nat × InMemoryConversationStore) := do
  store.requireOwner conversationId ownerUserId
  let deleted := (store.evidence conversationId).length
  return (deleted, { store with evidence := Function.update store.evidence conversationId [] })

/-- `close_conversation`. -/
def closeConversation (conversationId ownerUserId : Uuid) : Except PyError Unit :=
  store.requireOwner conversationId ownerUserId

end InMemoryConversationStore

/-! ## Calls of both stores -/

/-- A call of a conversation store. -/
inductive StoreCall where
  | claimOrValidate (conversationId ownerUserId : Uuid) (observedAtUtc : DateTime)
  | readRecent (conversationId ownerUserId : Uuid) (limit : Int)
  | append (conversationId : Uuid) (turn : ConversationTurn) (ownerUserId : Uuid)
  | appendCompletedExchange (conversationId ownerUserId : Uuid)
      (userTurn assistantTurn : ConversationTurn) (evidence : Option ConversationEvidenceSnapshot)
  | readRecentEvidence (conversationId ownerUserId : Uuid) (limit : Int)
  | appendEvidence (snapshot : ConversationEvidenceSnapshot)
  | eraseEvidence (conversationId ownerUserId : Uuid)
  | closeConversation (conversationId ownerUserId : Uuid)

/-- What the PostgreSQL store draws in a call: `uuid4()` for each row it adds, and
`datetime.now(UTC)`. -/
structure Draws where
  turnId : Uuid
  assistantTurnId : Uuid
  evidenceId : Uuid
  now : DateTime

namespace InMemoryConversationStore

/-- The in-memory store answers a call. -/
def answer (store : InMemoryConversationStore) :
    StoreCall → Except PyError (CallResult × InMemoryConversationStore)
  | .claimOrValidate conversationId ownerUserId _ => do
    let after ← store.claimOrValidate conversationId ownerUserId
    return (.done, after)
  | .readRecent conversationId ownerUserId limit => do
    let turns ← store.readRecent conversationId ownerUserId limit
    return (.turns turns, store)
  | .append conversationId turn ownerUserId => do
    let after ← store.append conversationId turn ownerUserId
    return (.done, after)
  | .appendCompletedExchange conversationId ownerUserId userTurn assistantTurn evidence => do
    let after ← store.appendCompletedExchange conversationId ownerUserId userTurn assistantTurn
      evidence
    return (.done, after)
  | .readRecentEvidence conversationId ownerUserId limit => do
    let snapshots ← store.readRecentEvidence conversationId ownerUserId limit
    return (.evidence snapshots, store)
  | .appendEvidence snapshot => do
    let after ← store.appendEvidence snapshot
    return (.done, after)
  | .eraseEvidence conversationId ownerUserId => do
    let (deleted, after) ← store.eraseEvidence conversationId ownerUserId
    return (.count deleted, after)
  | .closeConversation conversationId ownerUserId => do
    store.closeConversation conversationId ownerUserId
    return (.done, store)

/-- What a sequence of calls returns and raises; a call that raises leaves the store as it was. -/
def results (store : InMemoryConversationStore) : List StoreCall → List (Except PyError CallResult)
  | [] => []
  | call :: rest =>
    match store.answer call with
    | .ok (result, after) => .ok result :: results after rest
    | .error e => .error e :: results store rest

end InMemoryConversationStore

end HotAirBalloon.Memory
