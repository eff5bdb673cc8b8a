import HotAirBalloon.Documents.Ingestion
import HotAirBalloon.Documents.OutboxDelivery
import HotAirBalloon.Documents.Upload
import HotAirBalloon.Library.Embedding

/-!
# The pipeline of documents

What `build_documents_module` wires together over one database and one blob storage: uploads insert
documents with their outbox rows, publishers send the rows to the broker, and consumers turn the
documents into chunks. Any number of each run at once. Publishers and consumers lock the rows that
they take and skip the ones that another session holds, and each commit writes the columns that its
session has assigned.
-/

namespace HotAirBalloon.Pipeline

open Python Library Memory Outbox Uploads
open Documents
    (Assignment DocumentRecord IngestionOp DocumentIngestionConsumer documentAfter eventAfter
  pendingEvents)

/-- The use case, the publisher and the consumer, over one topic. -/
structure DocumentsModule where
  uploadDocument : UploadDocument
  outboxPublisher : OutboxPublisher
  ingestionConsumer : DocumentIngestionConsumer
  topic_eq : ingestionConsumer.topicName = uploadDocument.topicName

/-! ## The world -/

structure PipelineWorld (ι : Type) where
  documents : Table Document.id
  /-- The column `ingestion_error` of `documents`, which an upload leaves empty. -/
  ingestionErrors : Uuid → Option String
  outbox : Table OutboxRecord.id
  blobs : Table Blob.name
  memories : List MemoryRecordWrite
  /-- The outbox rows that sessions have locked. -/
  locks : List (ι × Int)
  /-- What the open session of a consumer has assigned. -/
  assigned : ι → List Assignment
  /-- The number of chunks that a consumer has stored since its session was opened and last
  committed. -/
  uncommitted : ι → Nat
  /-- The calls of the publishers. -/
  log : List (ι × OutboxEvent)

/-- The columns of an outbox row that a consumer reads. -/
def eventOf (row : OutboxRecord) : Documents.OutboxRecord :=
  ⟨row.id, row.topic, row.key, row.ingestedAt⟩

namespace PipelineWorld

variable {ι : Type} (w : PipelineWorld ι)

def empty : PipelineWorld ι :=
  ⟨.empty, fun _ => none, .empty, .empty, [], [], fun _ => [], fun _ => 0, []⟩

/-- What an upload sees, when the sequence hands out the number `outboxId` next. -/
def stores (outboxId : Nat) : Stores := ⟨w.documents, w.outbox, w.blobs, outboxId⟩

/-- What a publisher sees. -/
def outboxPart : OutboxWorld ι := ⟨w.outbox, w.locks, w.log⟩

/-- A row of `documents`, as a consumer reads it. -/
def record (document : Document) : DocumentRecord where
  id := document.id
  contentType := document.contentType
  blobContainer := document.blobContainer
  blobName := document.blobName
  status := document.status
  siteCode := document.siteCode
  ingestionError := w.ingestionErrors document.id

/-- The contents of the chunks of a document, in the order in which they were stored. -/
def storedChunks (documentId : Uuid) : List String :=
  (w.memories.filter (fun memory => memory.sourceDocumentId = some documentId)).map (·.content)

/-- `AzureBlobStorage.download`. -/
def download (useCase : UploadDocument) (container blobName : String) : Except PyError ByteArray :=
  if container = useCase.containerName then
    match w.blobs.find? blobName with
    | some blob => .ok blob.payload
    | none => .error ⟨"ResourceNotFoundError", "The specified blob does not exist.", true⟩
  else .error ⟨"ResourceNotFoundError", "The specified container does not exist.", true⟩

variable [DecidableEq ι] (i : ι)

/-- The events of the rows that no other session has locked. -/
def freeEvents : Table Documents.OutboxRecord.id :=
  ⟨(w.outbox.rows.filter (fun row => !w.outboxPart.lockedByOther i row)).map eventOf, by
    rw [List.map_map]
    exact (w.outbox.filter (fun row => !w.outboxPart.lockedByOther i row)).keys_nodup⟩

/-- The end of a transaction of process `i`. -/
def ended : PipelineWorld ι :=
  { w with
    locks := w.outboxPart.release i
    assigned := Function.update w.assigned i []
    uncommitted := Function.update w.uncommitted i 0 }

/-- A document with the status that the session of a consumer has assigned. -/
def documentWritten (document : Document) : Document :=
  { document with status := (documentAfter (w.assigned i) (w.record document)).status }

/-- A row of the outbox with the mark that the session has assigned. -/
def rowWritten (row : OutboxRecord) : OutboxRecord :=
  { row with ingestedAt := (eventAfter (w.assigned i) (eventOf row)).ingestedAt }

/-- The columns that the session of a consumer has assigned are written. -/
def written : PipelineWorld ι :=
  { w with
    documents := w.documents.mapRows (w.documentWritten i) (fun _ => rfl)
    ingestionErrors := fun id =>
      match w.documents.find? id with
      | some document => (documentAfter (w.assigned i) (w.record document)).ingestionError
      | none => w.ingestionErrors id
    outbox := w.outbox.mapRows (w.rowWritten i) (fun _ => rfl) }

variable {w i}

omit [DecidableEq ι] in
theorem mem_documents_written {document : Document} :
    document ∈ (w.written i).documents ↔ ∃ old ∈ w.documents, w.documentWritten i old = document :=
  Table.mem_mapRows (f := w.documentWritten i) (fun _ => rfl)

omit [DecidableEq ι] in
theorem mem_outbox_written {row : OutboxRecord} :
    row ∈ (w.written i).outbox ↔ ∃ old ∈ w.outbox, w.rowWritten i old = row :=
  Table.mem_mapRows (f := w.rowWritten i) (fun _ => rfl)

omit [DecidableEq ι] in
theorem ingestionErrors_written {document : Document} (h : document ∈ w.documents) :
    (w.written i).ingestionErrors document.id =
      (documentAfter (w.assigned i) (w.record document)).ingestionError := by
  unfold written
  dsimp only
  rw [Table.find?_eq_some_iff.mpr ⟨h, rfl⟩]

omit [DecidableEq ι] in
theorem ingestionErrors_written_of_forall_ne {id : Uuid}
    (h : ∀ document ∈ w.documents, document.id ≠ id) :
    (w.written i).ingestionErrors id = w.ingestionErrors id := by
  unfold written
  dsimp only
  rw [Table.find?_eq_none_iff.mpr h]

end PipelineWorld

/-! ## Calls -/

inductive PipelineOp where
  | uploadBlob (call : UploadCall)
  /-- The unit of work of an upload. -/
  | writeRows (call : UploadCall) (document : Document)
  | publisher (op : OutboxOp)
  | consumer (op : IngestionOp)

abbrev PipelineOp.Reply : PipelineOp → Type
  | uploadBlob _ => BlobUploadResult
  | writeRows _ _ => Unit
  | publisher op => op.Reply
  | consumer op => op.Reply

/-- What is left open about a call: whether a call of a consumer arrives, how a call of a publisher
goes, and the number that the sequence of `outbox.id` hands out. An upload says itself how its steps
are delivered. -/
structure Choice where
  delivery : Delivery := .arrives
  answer : Answer := .ok
  outboxId : Nat := 1

namespace DocumentsModule

variable (m : DocumentsModule) {ι : Type}

def uploadBlob (w : PipelineWorld ι) (call : UploadCall) :
    Except PyError BlobUploadResult × PipelineWorld ι :=
  let (reply, blobs) :=
    delivered (call.delivery .upload) w.blobs (m.uploadDocument.upload call w.blobs)
  (reply, { w with blobs := blobs })

/-- A transaction takes effect when it commits. Its number of the sequence is drawn before that, so
rows may be committed in another order than that of their numbers. -/
def writeRows (w : PipelineWorld ι) (call : UploadCall) (document : Document) (outboxId : Nat) :
    Except PyError Unit × PipelineWorld ι :=
  let (reply, s) := m.uploadDocument.writeRows call document (w.stores outboxId)
  (reply, { w with documents := s.documents, outbox := s.outbox })

variable [DecidableEq ι]

/-- What a call of a consumer does when it arrives. -/
def carryOut (w : PipelineWorld ι) (i : ι) (op : IngestionOp) :
    Except PyError op.Reply × PipelineWorld ι :=
  match op with
  | .selectEvents topic batchSize =>
    let events := (pendingEvents topic (w.freeEvents i)).take batchSize
    (.ok events, { w with locks := w.locks ++ events.map (fun event => (i, event.id)) })
  | .getDocument documentId =>
    (.ok ((w.documents.find? documentId).map (fun document =>
      documentAfter (w.assigned i) (w.record document))), w)
  | .assign assignment =>
    (.ok (), { w with assigned := Function.update w.assigned i (w.assigned i ++ [assignment]) })
  | .download container blobName => (w.download m.uploadDocument container blobName, w)
  | .extract contentType payload =>
    (m.ingestionConsumer.textExtractor.extract contentType payload, w)
  | .chunk text => (m.ingestionConsumer.chunker.chunk text, w)
  | .record memory => (.ok (), { w with
      memories := w.memories ++ [memory]
      uncommitted := Function.update w.uncommitted i (w.uncommitted i + 1) })
  | .commit => (.ok (), (w.written i).ended i)
  | .close => (.ok (), w.ended i)

def exec : Exec ι PyError PipelineOp PipelineOp.Reply Choice (PipelineWorld ι) :=
  fun i op choice w =>
  match op with
  | .uploadBlob call => some (m.uploadBlob w call)
  | .writeRows call document => some (m.writeRows w call document choice.outboxId)
  | .publisher op =>
    (Outbox.exec i op choice.answer w.outboxPart).map fun (reply, after) =>
      (reply, { w with outbox := after.outbox, locks := after.locks, log := after.log })
  | .consumer op =>
    some (if DocumentIngestionConsumer.alwaysArrives op then m.carryOut w i op
      else delivered choice.delivery w (m.carryOut w i op))

/-! ## Processes -/

/-- `UploadDocument.execute`, call by call. -/
def upload (call : UploadCall) : Prog PyError PipelineOp PipelineOp.Reply UploadedDocumentDTO := do
  match ← (Prog.perform (PipelineOp.uploadBlob call)).attempt with
  | .error e =>
    if e.isException then Prog.raise ⟨"StorageUploadFailedError", "blob upload failed", true⟩
    else Prog.raise e
  | .ok result =>
    let document := m.uploadDocument.document call result
    Prog.perform (PipelineOp.writeRows call document)
    return .fromEntity document

end DocumentsModule

/-- What a process does: uploads, or batches of a publisher, or runs of a consumer. -/
inductive Role where
  | uploader (calls : List UploadCall)
  | publisher (clocks : List (Int → DateTime))
  | consumer (clocks : List (Int → DateTime))

namespace DocumentsModule

variable (m : DocumentsModule)

/-- What a process does, one thing after another, whatever becomes of it. -/
def program : Role → Prog PyError PipelineOp PipelineOp.Reply Unit
  | .uploader calls => Prog.forEach calls fun call => do
    let _ ← (m.upload call).attempt
    return ()
  | .publisher clocks =>
    (m.outboxPublisher.publishBatches clocks).embed .publisher (fun _ reply => reply)
  | .consumer clocks =>
    (m.ingestionConsumer.ingestRuns clocks).embed .consumer (fun _ reply => reply)

/-- Any processes over an empty database. -/
def start {ι : Type} (roles : ι → Role) :
    Config ι PyError PipelineOp PipelineOp.Reply (PipelineWorld ι) Unit :=
  ⟨.empty, fun i => m.program (roles i)⟩

end DocumentsModule

end HotAirBalloon.Pipeline
