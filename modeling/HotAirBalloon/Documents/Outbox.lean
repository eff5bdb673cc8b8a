import HotAirBalloon.Library.Resumption
import HotAirBalloon.Memory.LongTerm

/-!
# The outbox

The table `outbox` with all its columns, and `OutboxPublisher._publish_batch` run by any number of
publishers. A batch locks its rows and skips the ones that another publisher holds; what it assigns
to them is written by the commit. Publishing and committing may fail.
-/

namespace HotAirBalloon.Outbox

open Python Library

structure OutboxRecord where
  id : Int
  topic : String
  key : String
  payloadJson : Dict Value
  headersJson : Dict String
  retryCount : Nat := 0
  lastError : Option String := none
  publishedAt : Option DateTime := none
  ingestedAt : Option DateTime := none
  createdAt : DateTime

/-- What is published of a row. -/
structure OutboxMessage where
  topic : String
  key : String
  payload : Dict Value
  headers : Dict String

def OutboxRecord.message (row : OutboxRecord) : OutboxMessage :=
  ⟨row.topic, row.key, row.payloadJson, row.headersJson⟩

/-- The row that `OutboxRepository.add` inserts. -/
def newRecord (id : Int) (message : OutboxMessage) (createdAt : DateTime) : OutboxRecord where
  id := id
  topic := message.topic
  key := message.key
  payloadJson := message.payload
  headersJson := message.headers
  createdAt := createdAt

/-! ## Marks -/

/-- What a batch assigns to a row. -/
inductive Mark where
  | published (id : Int) (publishedAt : DateTime)
  | failed (id : Int) (retryCount : Nat) (lastError : String)

namespace Mark

def id : Mark → Int
  | published id _ => id
  | failed id _ _ => id

/-- The row after the `UPDATE` of the assigned columns. -/
def onRow (mark : Mark) (row : OutboxRecord) : OutboxRecord :=
  if row.id = mark.id then
    match mark with
    | published _ publishedAt => { row with publishedAt := some publishedAt, lastError := none }
    | failed _ retryCount lastError =>
      { row with retryCount := retryCount, lastError := some lastError }
  else row

theorem onRow_id (mark : Mark) (row : OutboxRecord) : (mark.onRow row).id = row.id := by
  unfold onRow
  split
  · cases mark <;> rfl
  · rfl

end Mark

/-- A row after some marks. -/
def marked (marks : List Mark) (row : OutboxRecord) : OutboxRecord :=
  marks.foldl (fun row mark => mark.onRow row) row

theorem marked_id (marks : List Mark) (row : OutboxRecord) : (marked marks row).id = row.id := by
  induction marks generalizing row with
  | nil => rfl
  | cons mark rest ih => exact (ih (mark.onRow row)).trans (mark.onRow_id row)

/-! ## Calls of a publisher -/

inductive OutboxOp where
  | selectForUpdate (maxRetries batchSize : Nat)
  | publish (row : OutboxRecord)
  | commit (marks : List Mark)
  | close

abbrev OutboxOp.Reply : OutboxOp → Type
  | selectForUpdate _ _ => List OutboxRecord
  | publish _ | commit _ | close => Unit

structure OutboxEvent where
  op : OutboxOp
  reply : Except PyError op.Reply

structure OutboxWorld (ι : Type) where
  outbox : Table OutboxRecord.id
  /-- The rows that publishers have locked. -/
  locks : List (ι × Int)
  log : List (ι × OutboxEvent)

/-- How a call goes: it succeeds, or raises an `Exception` without effect or with it. -/
inductive Answer where
  | ok
  | lost (kind message : String)
  | late (kind message : String)

/-- The error of an answer. -/
def Answer.error? : Answer → Option PyError
  | ok => none
  | lost kind message | late kind message => some ⟨kind, message, true⟩

/-- `published_at IS NULL AND retry_count < max_retries`. -/
def OutboxRecord.isSelectable (maxRetries : Nat) (row : OutboxRecord) : Bool :=
  row.publishedAt.isNone && row.retryCount < maxRetries

section

variable {ι : Type} [DecidableEq ι]

namespace OutboxWorld

/-- Another publisher has locked the row. -/
def lockedByOther (w : OutboxWorld ι) (i : ι) (row : OutboxRecord) : Bool :=
  w.locks.any (fun lock => lock.1 ≠ i ∧ lock.2 = row.id)

/-- `ORDER BY id ASC LIMIT … FOR UPDATE SKIP LOCKED`. -/
def selected (w : OutboxWorld ι) (i : ι) (maxRetries batchSize : Nat) : List OutboxRecord :=
  (((w.outbox.rows.filter (·.isSelectable maxRetries)).insertionSort
    (fun a b => a.id ≤ b.id)).filter (fun row => !w.lockedByOther i row)).take batchSize

def release (w : OutboxWorld ι) (i : ι) : List (ι × Int) := w.locks.filter (fun lock => lock.1 ≠ i)

/-- The world after a call has been carried out, and its reply. -/
def carryOut (w : OutboxWorld ι) (i : ι) (op : OutboxOp) : op.Reply × OutboxWorld ι :=
  match op with
  | .selectForUpdate maxRetries batchSize =>
    let rows := w.selected i maxRetries batchSize
    (rows, { w with locks := w.locks ++ rows.map (fun row => (i, row.id)) })
  | .publish _ => ((), w)
  | .commit marks => ((), { w with
      outbox := w.outbox.mapRows (marked marks) (marked_id marks)
      locks := w.release i })
  | .close => ((), { w with locks := w.release i })

end OutboxWorld

/-- Publishing and committing may fail. -/
def OutboxOp.mayFail : OutboxOp → Bool
  | publish _ | commit _ => true
  | selectForUpdate _ _ | close => false

/-- One call of a publisher, with its entry in the log. -/
def exec : Exec ι PyError OutboxOp OutboxOp.Reply Answer (OutboxWorld ι) := fun i op answer w =>
  let (reply, after) := w.carryOut i op
  let (result, w') : Except PyError op.Reply × OutboxWorld ι :=
    if op.mayFail then
      match answer with
      | .ok => (.ok reply, after)
      | .lost kind message => (.error ⟨kind, message, true⟩, w)
      | .late kind message => (.error ⟨kind, message, true⟩, after)
    else (.ok reply, after)
  some (result, { w' with log := w.log ++ [(i, ⟨op, result⟩)] })

end

/-! ## The publisher -/

abbrev OutboxAction (α : Type) := Prog PyError OutboxOp OutboxOp.Reply α

structure OutboxPublisher where
  batchSize : Nat
  maxRetries : Nat

namespace OutboxPublisher

variable (publisher : OutboxPublisher)

/-- `min(2.0, 0.05 * (2**retry_count))`, as in the vector sync worker. -/
def backoff (retryCount : Nat) : Except PyError Unit := Memory.VectorSyncWorker.backoff retryCount

/-- One round of the loop over the rows. -/
def publishRow (row : OutboxRecord) (now : DateTime) : OutboxAction Mark := do
  let result ← (Prog.perform (OutboxOp.publish row)).attempt
  match result with
  | .ok _ => return .published row.id now
  | .error e =>
    if e.isException then
      Prog.ofExcept (backoff (row.retryCount + 1))
      return .failed row.id (row.retryCount + 1) (String.ofList (e.message.toList.take 4000))
    else Prog.raise e

/-- The body of `_publish_batch` in its session; `clock` is the reading after each row. -/
def publishRows (clock : Int → DateTime) : OutboxAction Nat := do
  let rows ← Prog.perform (OutboxOp.selectForUpdate publisher.maxRetries publisher.batchSize)
  if rows.isEmpty then return 0
  else
    let marks ← Prog.foldEach rows [] fun marks row => do
      let mark ← publishRow row (clock row.id)
      return marks ++ [mark]
    Prog.perform (OutboxOp.commit marks)
    return rows.length

/-- `_publish_batch`. -/
def publishBatch (clock : Int → DateTime) : OutboxAction Nat := do
  let result ← (publisher.publishRows clock).attempt
  let _ ← (Prog.perform OutboxOp.close).attempt
  Prog.ofExcept result

/-- Runs of `_publish_batch` one after another, whatever becomes of them. -/
def publishBatches (clocks : List (Int → DateTime)) : OutboxAction Unit :=
  Prog.forEach clocks fun clock => do
    let _ ← (publisher.publishBatch clock).attempt
    return ()

end OutboxPublisher

end HotAirBalloon.Outbox
