import HotAirBalloon.Library.Embedding
import HotAirBalloon.Memory.FactPolicy
import HotAirBalloon.Memory.Calls

/-!
# The consolidation worker

`consolidate_once` of `long_term/consolidation_worker.py`. The worker selects idle conversations in
a session of its own and keeps it open to the end; the candidate store and the memory repository
open theirs inside it, one at a time, so a process has two sessions. The session factory sets
`autoflush=False`: the marks of the batch are sent by the commit, in the order of the primary keys.

The fact extractor is a service, and the tool audit records are written elsewhere; what they reply
is given by `Outside`: a process that asks about the same turns again gets the same reply. Values of
`uuid4()` and `datetime.now(UTC)` are arguments.
-/

namespace HotAirBalloon.Memory

open Python Library

/-! ## Calls of a process with two sessions -/

inductive WorkerOp where
  /-- A call in the session that the process opens itself. -/
  | main (op : Op)
  /-- A call in a session that is opened inside the first. -/
  | nested (op : Op)
  | extract (turns : List (Uuid × ConversationTurn))
  | selectApprovedTools (conversationId : Uuid)

abbrev WorkerOp.Reply : WorkerOp → Type
  | main op => op.Reply
  | nested op => op.Reply
  | extract _ => List ExtractedFact
  | selectApprovedTools _ => List String

/-- The replies of the fact extractor, the same for the same turns whenever a process asks, and the
tools of the approved audit records. -/
structure Outside (ι : Type) where
  extract : ι → List (Uuid × ConversationTurn) → List ExtractedFact
  approvedTools : ι → Uuid → List String

/-- A call that only reads something outside. -/
def readOutside {α W : Type} (a : α) (delivery : Delivery) (w : W) :
    Option (Except PyError α × W) :=
  match delivery with
  | .arrives => some (.ok a, w)
  | .lost e | .late e => some (.error e, w)

/-- One call of a process: its own session is `(i, false)`, the inner one `(i, true)`. -/
def workerExec {ι : Type} [DecidableEq ι] (outside : Outside ι) :
    Exec ι PyError WorkerOp WorkerOp.Reply Delivery (World (ι × Bool)) := fun i op delivery w =>
  match op with
  | .main op => exec (i, false) op delivery w
  | .nested op => exec (i, true) op delivery w
  | .extract turns => readOutside (outside.extract i turns) delivery w
  | .selectApprovedTools conversationId =>
    readOutside (outside.approvedTools i conversationId) delivery w

/-- Programs of processes with two sessions. -/
abbrev WorkerAction (α : Type) := Prog PyError WorkerOp WorkerOp.Reply α

/-- A program in the session of the process. -/
def inMain {α : Type} (p : Action α) : WorkerAction α :=
  p.embed WorkerOp.main (fun _ reply => reply)

/-- A program in a session inside. -/
def inNested {α : Type} (p : Action α) : WorkerAction α :=
  p.embed WorkerOp.nested (fun _ reply => reply)

/-! ## The worker -/

structure ConsolidationWorker where
  factPolicy : FactAcceptancePolicy
  candidateStore : FactCandidateRepository
  memoryStore : MemoryRecordRepository
  toolPermissionsByName : List (String × String)
  idleMinutes : Int
  batchSize : Nat := 20

/-- The clock readings and fresh ids of a run, by conversation and by the position of a fact. -/
structure ConsolidationDraws where
  now : DateTime
  evaluatedAt : Uuid → DateTime
  markedAt : Uuid → DateTime
  candidateId : Uuid → Nat → Uuid
  recordedAt : Uuid → Nat → DateTime
  memoryId : Uuid → Nat → Uuid
  promotedAt : Uuid → Nat → DateTime

namespace ConsolidationWorker

variable (worker : ConsolidationWorker) (draws : ConsolidationDraws)

/-- `timedelta(minutes=n)`. -/
def minutes (n : Int) : Int := n * (60 * DateTime.secondMicros)

/-- `_required_permissions_for_conversation`. -/
def requiredPermissions (conversationId : Uuid) : WorkerAction (List String) := do
  let toolNames ← Prog.perform (WorkerOp.selectApprovedTools conversationId)
  return (toolNames.filterMap fun toolName =>
    worker.toolPermissionsByName.lookup toolName).eraseDups

/-- One round of the loop over the facts of a conversation. -/
def consolidateFact (conversation : AssistantConversationRecord) (sourceTurnIds : List Uuid)
    (permissions : List String) (fact : ExtractedFact) (index : Nat) : WorkerAction Unit := do
  let now := draws.evaluatedAt conversation.id
  let evaluation := worker.factPolicy.evaluate fact sourceTurnIds now
  let candidateId ← inNested (worker.candidateStore.recordOutcome conversation.id
    conversation.ownerUserId fact evaluation.decision.value evaluation.reason
    (draws.candidateId conversation.id index) (draws.recordedAt conversation.id index))
  if evaluation.decision ≠ .accepted then return ()
  else
    let (memoryRecordId, _) ← inNested (promote worker.memoryStore fact conversation.ownerUserId
      permissions sourceTurnIds evaluation.expiresAtUtc (draws.memoryId conversation.id index)
      (draws.promotedAt conversation.id index))
    inNested (FactCandidateRepository.markPromoted candidateId memoryRecordId)

/-- The turns as the extractor reads them. -/
def conversationTurn (turn : ConversationTurnRecord) : Uuid × ConversationTurn :=
  (turn.id, ConversationStore.turnOf turn)

/-- One round of the loop over the conversations, up to the mark. The column `owner_user_id` is not
nullable. -/
def consolidateConversation (conversation : AssistantConversationRecord) : WorkerAction Unit := do
  let turns ← inMain (sql (.selectConversationTurns conversation.id))
  if turns.length < 2 then return ()
  else
    let facts ← Prog.perform (WorkerOp.extract (turns.map conversationTurn))
    let permissions ← worker.requiredPermissions conversation.id
    Prog.forEach facts.zipIdx fun (fact, index) =>
      worker.consolidateFact draws conversation (turns.map (·.id)) permissions fact index

/-- The update of a marked conversation. -/
def flushMark (conversation : AssistantConversationRecord) : Action Unit :=
  flushUpdate (sql (.markConsolidated conversation.id (draws.markedAt conversation.id)))

/-- The order in which a flush updates its rows. -/
def flushOrder (conversations : List AssistantConversationRecord) :
    List AssistantConversationRecord :=
  conversations.insertionSort (fun a b => a.id.int ≤ b.id.int)

/-- The work of a batch, in the session of the worker. -/
def consolidateBatch : WorkerAction Nat := do
  let conversations ← inMain (sql
    (.selectIdleForUpdate (draws.now - minutes worker.idleMinutes) worker.batchSize))
  let processed ← Prog.foldEach conversations 0 fun processed conversation => do
    worker.consolidateConversation draws conversation
    return processed + 1
  Prog.forEach (flushOrder conversations) fun conversation => inMain (flushMark draws conversation)
  inMain (send .commit)
  return processed

/-- `consolidate_once`. -/
def consolidateOnce : WorkerAction Nat := do
  let result ← (worker.consolidateBatch draws).attempt
  let _ ← (inMain (send .rollback)).attempt
  Prog.ofExcept result

end ConsolidationWorker

end HotAirBalloon.Memory
