import HotAirBalloon.Memory.LongTerm

/-!
# Document ingestion

`documents/infrastructure/ingestion`: the consumer takes a batch of outbox events, and for each of
them downloads a document, extracts its text, splits it into chunks and hands them to the memory
store. One session spans the batch: what is assigned to the events and documents is written when
it commits. The memory store writes each chunk in a transaction of its own.

The blob storage, the PDF and DOCX readers and the tokenizer are parameters.
-/

namespace HotAirBalloon.Documents

open Python Library Evidence Memory

structure DocumentRecord where
  id : Uuid
  contentType : String
  blobContainer : String
  blobName : String
  status : String
  siteCode : Option String
  ingestionError : Option String
  deriving DecidableEq

structure OutboxRecord where
  id : Int
  topic : String
  key : String
  ingestedAt : Option DateTime
  deriving DecidableEq

/-! ## Text extraction and chunking -/

def textExtractionError (message : String) : PyError := ⟨"TextExtractionError", message, true⟩

/-- The extractor, with `page.extract_text()` of the pages of a PDF and the paragraphs of a DOCX
document. -/
structure TextExtractor where
  pdfPages : ByteArray → Except PyError (List (Option String))
  docxParagraphs : ByteArray → Except PyError (List String)

namespace TextExtractor

/-- `payload.decode("utf-8")`. -/
def decodeUtf8 (payload : ByteArray) : Except PyError String :=
  match String.fromUTF8? payload with
  | some text => return text
  | none => throw ⟨"UnicodeDecodeError", "'utf-8' codec can't decode the payload", true⟩

variable (extractor : TextExtractor)

/-- The `try` block: nothing when the content type is not a known one. -/
def read (contentType : String) (payload : ByteArray) : Except PyError (Option String) :=
  if contentType ∈ ["text/plain", "text/markdown"] then some <$> decodeUtf8 payload
  else if contentType = "application/pdf" then
    (fun pages => some ("\n".intercalate (pages.map (fun page => page.getD "")))) <$>
      extractor.pdfPages payload
  else if contentType =
    "application/vnd.openxmlformats-officedocument.wordprocessingml.document" then
    (fun paragraphs => some ("\n".intercalate paragraphs)) <$> extractor.docxParagraphs payload
  else return none

/-- `extract`. -/
def extract (contentType : String) (payload : ByteArray) : Except PyError String :=
  match extractor.read contentType payload with
  | .ok (some text) => return text
  | .ok none => throw (textExtractionError ("Unsupported document content type: " ++ contentType))
  | .error e =>
    if e.isException then throw (textExtractionError "Document text extraction failed") else throw e

end TextExtractor

/-- The chunker, with `encode` and `decode` of its `tiktoken` encoding. -/
structure TokenChunker where
  chunkTokens : Int
  overlapTokens : Int
  encode : String → Except PyError (List Nat)
  decode : List Nat → String

namespace TokenChunker

/-- `tokens[start:stop]` for a start in the list. -/
def slice (tokens : List Nat) (start : Nat) (stop : Int) : List Nat :=
  (tokens.take (if stop < 0 then stop + tokens.length else stop).toNat).drop start

/-- `range(0, length, step)`. -/
def starts (length : Nat) (step : Int) : Except PyError (List Nat) :=
  if step = 0 then throw (PyError.valueError "range() arg 3 must not be zero")
  else if step < 0 then return []
  else return (List.range ((length + step.toNat - 1) / step.toNat)).map (fun n => n * step.toNat)

variable (chunker : TokenChunker)

/-- `tokens[start : start + self.chunk_tokens]`. -/
def windowAt (tokens : List Nat) (start : Nat) : List Nat :=
  slice tokens start (start + chunker.chunkTokens)

/-- The chunk of a window; a blank one is left out. -/
def chunkAt (tokens : List Nat) (start : Nat) : Option String :=
  let text := strip (chunker.decode (chunker.windowAt tokens start))
  if text = "" then none else some text

/-- `chunk`. -/
def chunk (text : String) : Except PyError (List String) := do
  let tokens ← chunker.encode text
  if tokens.isEmpty then return []
  else
    let positions ← starts tokens.length (chunker.chunkTokens - chunker.overlapTokens)
    return positions.filterMap (chunker.chunkAt tokens)

end TokenChunker

/-! ## The session and the memory store -/

/-- An attribute of a loaded record that is assigned, to be written at the commit. -/
inductive Assignment where
  | ingestedAt (eventId : Int) (now : DateTime)
  | status (documentId : Uuid) (status : String)
  | ingestionError (documentId : Uuid) (error : Option String)

namespace Assignment

def onEvent (assignment : Assignment) (event : OutboxRecord) : OutboxRecord :=
  match assignment with
  | ingestedAt eventId now =>
    if event.id = eventId then { event with ingestedAt := some now } else event
  | status _ _ | ingestionError _ _ => event

def onDocument (assignment : Assignment) (document : DocumentRecord) : DocumentRecord :=
  match assignment with
  | ingestedAt _ _ => document
  | status documentId value =>
    if document.id = documentId then { document with status := value } else document
  | ingestionError documentId error =>
    if document.id = documentId then { document with ingestionError := error } else document

theorem onEvent_eq (assignment : Assignment) (event : OutboxRecord) :
    ∃ ingestedAt, assignment.onEvent event = { event with ingestedAt := ingestedAt } := by
  cases assignment with
  | ingestedAt eventId now =>
    dsimp only [onEvent]
    split
    · exact ⟨some now, rfl⟩
    · exact ⟨event.ingestedAt, rfl⟩
  | status => exact ⟨event.ingestedAt, rfl⟩
  | ingestionError => exact ⟨event.ingestedAt, rfl⟩

theorem onDocument_eq (assignment : Assignment) (document : DocumentRecord) :
    ∃ status error, assignment.onDocument document =
      { document with status := status, ingestionError := error } := by
  cases assignment with
  | ingestedAt => exact ⟨document.status, document.ingestionError, rfl⟩
  | status documentId value =>
    dsimp only [onDocument]
    split
    · exact ⟨value, document.ingestionError, rfl⟩
    · exact ⟨document.status, document.ingestionError, rfl⟩
  | ingestionError documentId error =>
    dsimp only [onDocument]
    split
    · exact ⟨document.status, error, rfl⟩
    · exact ⟨document.status, document.ingestionError, rfl⟩

end Assignment

/-- A row after some assignments. -/
def eventAfter (assigned : List Assignment) (event : OutboxRecord) : OutboxRecord :=
  assigned.foldl (fun event assignment => assignment.onEvent event) event

def documentAfter (assigned : List Assignment) (document : DocumentRecord) : DocumentRecord :=
  assigned.foldl (fun document assignment => assignment.onDocument document) document

section

variable (assigned : List Assignment) (event : OutboxRecord) (document : DocumentRecord)

/-- Only the mark of an event is assigned. -/
theorem eventAfter_eq :
    ∃ ingestedAt, eventAfter assigned event = { event with ingestedAt := ingestedAt } := by
  induction assigned generalizing event with
  | nil => exact ⟨event.ingestedAt, rfl⟩
  | cons assignment rest ih =>
    obtain ⟨first, hfirst⟩ := assignment.onEvent_eq event
    obtain ⟨last, hlast⟩ := ih (assignment.onEvent event)
    refine ⟨last, hlast.trans ?_⟩
    rw [hfirst]

/-- Only the status and the error of a document are assigned. -/
theorem documentAfter_eq : ∃ status error, documentAfter assigned document =
    { document with status := status, ingestionError := error } := by
  induction assigned generalizing document with
  | nil => exact ⟨document.status, document.ingestionError, rfl⟩
  | cons assignment rest ih =>
    obtain ⟨status, error, hfirst⟩ := assignment.onDocument_eq document
    obtain ⟨status', error', hlast⟩ := ih (assignment.onDocument document)
    refine ⟨status', error', hlast.trans ?_⟩
    rw [hfirst]

@[simp] theorem eventAfter_id : (eventAfter assigned event).id = event.id := by
  obtain ⟨ingestedAt, heq⟩ := eventAfter_eq assigned event
  rw [heq]

@[simp] theorem documentAfter_id : (documentAfter assigned document).id = document.id := by
  obtain ⟨status, error, heq⟩ := documentAfter_eq assigned document
  rw [heq]

end

structure IngestionWorld where
  outbox : Table OutboxRecord.id
  documents : Table DocumentRecord.id
  memories : List MemoryRecordWrite
  /-- What the open session has assigned. -/
  assigned : List Assignment
  /-- The number of chunks stored since the session was opened and last committed. -/
  uncommitted : Nat

/-- The calls of the consumer. -/
inductive IngestionOp where
  | selectEvents (topic : String) (batchSize : Nat)
  | getDocument (documentId : Uuid)
  | assign (assignment : Assignment)
  | download (container blobName : String)
  | extract (contentType : String) (payload : ByteArray)
  | chunk (text : String)
  | record (memory : MemoryRecordWrite)
  | commit
  | close

abbrev IngestionOp.Reply : IngestionOp → Type
  | selectEvents _ _ => List OutboxRecord
  | getDocument _ => Option DocumentRecord
  | download _ _ => ByteArray
  | extract _ _ => String
  | chunk _ => List String
  | assign _ | record _ | commit | close => Unit

abbrev IngestionAction (α : Type) := Prog PyError IngestionOp IngestionOp.Reply α

structure DocumentIngestionConsumer where
  py : Interpreter
  /-- The blob storage: `download(container=…, blob_name=…)`. -/
  download : String → String → Except PyError ByteArray
  textExtractor : TextExtractor
  chunker : TokenChunker
  batchSize : Nat
  topicName : String

/-- The events of a topic that are not ingested, in the order of their ids. -/
def pendingEvents (topic : String) (outbox : Table OutboxRecord.id) : List OutboxRecord :=
  (outbox.rows.filter (fun event => event.topic = topic ∧ event.ingestedAt = none)).mergeSort
    (fun a b => decide (a.id ≤ b.id))

namespace DocumentIngestionConsumer

variable (consumer : DocumentIngestionConsumer)

/-- What a call does when it arrives. -/
def carryOut (op : IngestionOp) (w : IngestionWorld) : Except PyError op.Reply × IngestionWorld :=
  match op with
  | .selectEvents topic batchSize => (.ok ((pendingEvents topic w.outbox).take batchSize), w)
  | .getDocument documentId =>
    -- the session hands back the object that it has loaded, with what was assigned to it
    (.ok ((w.documents.find? documentId).map (documentAfter w.assigned)), w)
  | .assign assignment => (.ok (), { w with assigned := w.assigned ++ [assignment] })
  | .download container blobName => (consumer.download container blobName, w)
  | .extract contentType payload => (consumer.textExtractor.extract contentType payload, w)
  | .chunk text => (consumer.chunker.chunk text, w)
  | .record memory =>
    (.ok (), { w with memories := w.memories ++ [memory], uncommitted := w.uncommitted + 1 })
  | .commit => (.ok (), {
      outbox := w.outbox.mapRows (eventAfter w.assigned) (eventAfter_id w.assigned)
      documents := w.documents.mapRows (documentAfter w.assigned) (documentAfter_id w.assigned)
      memories := w.memories
      assigned := []
      uncommitted := 0 })
  | .close => (.ok (), { w with assigned := [], uncommitted := 0 })

/-- Assigning an attribute and closing the session do not fail. -/
def alwaysArrives : IngestionOp → Bool
  | .assign _ | .close => true
  | _ => false

def exec : Exec Unit PyError IngestionOp IngestionOp.Reply Delivery IngestionWorld :=
  fun _ op delivery w =>
    some (match delivery with
      | .arrives => consumer.carryOut op w
      | .lost e => if alwaysArrives op then consumer.carryOut op w else (.error e, w)
      | .late e =>
        if alwaysArrives op then consumer.carryOut op w else (.error e, (consumer.carryOut op w).2))

/-! ## The consumer -/

/-- The `try` block: the text of a document. -/
def extractText (document : DocumentRecord) : IngestionAction String := do
  let payload ← Prog.perform (IngestionOp.download document.blobContainer document.blobName)
  Prog.perform (IngestionOp.extract document.contentType payload)

/-- The memory that a chunk of a document becomes. -/
def chunkMemory (document : DocumentRecord) (chunk : String) : MemoryRecordWrite where
  kind := "document_chunk"
  content := chunk
  ownerUserId := none
  siteCode := document.siteCode
  requiredPermissions := ["documents:read"]
  sourceDocumentId := some document.id

def assign (assignment : Assignment) : IngestionAction Unit :=
  Prog.perform (IngestionOp.assign assignment)

/-- The end of a round, after the text has been extracted. -/
def indexDocument (now : DateTime) (event : OutboxRecord) (document : DocumentRecord)
    (text : String) : IngestionAction Unit := do
  let chunks ← Prog.perform (IngestionOp.chunk text)
  Prog.forEach chunks fun chunk => Prog.perform (IngestionOp.record (chunkMemory document chunk))
  assign (.status document.id "indexed")
  assign (.ingestionError document.id none)
  assign (.ingestedAt event.id now)

/-- The handler of `TextExtractionError`. -/
def failDocument (now : DateTime) (event : OutboxRecord) (document : DocumentRecord) (e : PyError) :
    IngestionAction Unit := do
  assign (.status document.id "failed")
  assign (.ingestionError document.id (some (String.ofList (e.message.toList.take 4000))))
  assign (.ingestedAt event.id now)

/-- The rest of a round, once the document is loaded. -/
def ingestDocument (now : DateTime) (processed : Nat) (event : OutboxRecord)
    (document : DocumentRecord) : IngestionAction Nat := do
  assign (.status document.id "ingesting")
  match ← (extractText document).attempt with
  | .ok text =>
    indexDocument now event document text
    return processed + 1
  | .error e =>
    if e.kind = "TextExtractionError" then
      failDocument now event document e
      return processed + 1
    else Prog.raise e

/-- One round of the loop over the events; `now` is the reading of the clock in it. -/
def ingestEvent (now : DateTime) (processed : Nat) (event : OutboxRecord) :
    IngestionAction Nat := do
  let documentId ← Prog.ofExcept (uuidOf consumer.py event.key)
  match ← Prog.perform (IngestionOp.getDocument documentId) with
  | none =>
    assign (.ingestedAt event.id now)
    return processed
  | some document => ingestDocument now processed event document

/-- The body of `ingest_once` in its session. -/
def ingestBatch (clock : Int → DateTime) : IngestionAction Nat := do
  let events ← Prog.perform (IngestionOp.selectEvents consumer.topicName consumer.batchSize)
  let processed ← Prog.foldEach events 0 fun processed event =>
    consumer.ingestEvent (clock event.id) processed event
  Prog.perform IngestionOp.commit
  return processed

/-- `ingest_once`; `clock` is the reading in the round of an event. -/
def ingestOnce (clock : Int → DateTime) : IngestionAction Nat := do
  let result ← (consumer.ingestBatch clock).attempt
  Prog.perform IngestionOp.close
  Prog.ofExcept result

/-- Runs of `ingest_once` one after another, whatever becomes of them. -/
def ingestRuns (clocks : List (Int → DateTime)) : IngestionAction Unit :=
  Prog.forEach clocks fun clock => do
    let _ ← (consumer.ingestOnce clock).attempt
    return ()

/-! ## What the consumer stores for a document -/

/-- The chunks of a document. -/
def chunksOf (document : DocumentRecord) : Except PyError (List String) := do
  let payload ← consumer.download document.blobContainer document.blobName
  let text ← consumer.textExtractor.extract document.contentType payload
  consumer.chunker.chunk text

theorem chunksOf_documentAfter (assigned : List Assignment) (document : DocumentRecord) :
    consumer.chunksOf (documentAfter assigned document) = consumer.chunksOf document := by
  obtain ⟨status, error, heq⟩ := documentAfter_eq assigned document
  rw [heq]
  rfl

end DocumentIngestionConsumer

/-- The contents of the chunk records of a document, in the order in which they were stored. -/
def IngestionWorld.storedChunks (w : IngestionWorld) (documentId : Uuid) : List String :=
  (w.memories.filter (fun memory => memory.sourceDocumentId = some documentId)).map (·.content)

end HotAirBalloon.Documents
