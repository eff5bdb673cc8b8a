import HotAirBalloon.Documents.Outbox
import HotAirBalloon.Memory.Statements

/-!
# Uploading a document

`UploadDocument.execute` writes to the blob storage, then in one transaction to the tables
`documents` and `outbox`. Any of its steps may be lost, or take effect and raise all the same.
`uploadsAtomic` says what is left in each case: the transaction is all or nothing, also when the
reply to its commit is lost, but a blob that has been uploaded stays, for the storage has no way to
delete one.
-/

namespace HotAirBalloon.Uploads

open Python Library Outbox
open Memory (Delivery)

/-! ## The entity and its event -/

structure Document where
  id : Uuid
  originalFilename : String
  contentType : String
  sizeBytes : Nat
  sha256Hex : String
  blobContainer : String
  blobName : String
  blobUrl : String
  blobEtag : String
  status : String
  siteCode : Option String
  createdAt : DateTime
  idempotencyKey : Option String
  deriving DecidableEq

structure UploadDocumentCommand where
  originalFilename : String
  contentType : String
  contentBytes : ByteArray
  requestId : Option String
  idempotencyKey : Option String := none

structure BlobUploadResult where
  container : String
  blobName : String
  blobUrl : String
  etag : String

structure UploadedDocumentDTO where
  id : Uuid
  originalFilename : String
  contentType : String
  sizeBytes : Nat
  sha256Hex : String
  blobUrl : String
  status : String
  createdAt : DateTime

/-- `UploadedDocumentDTO.from_entity`. -/
def UploadedDocumentDTO.fromEntity (document : Document) : UploadedDocumentDTO where
  id := document.id
  originalFilename := document.originalFilename
  contentType := document.contentType
  sizeBytes := document.sizeBytes
  sha256Hex := document.sha256Hex
  blobUrl := document.blobUrl
  status := document.status
  createdAt := document.createdAt

/-- `DocumentUploadedV1.from_document(…).to_dict()`. -/
def uploadedEvent (document : Document) (requestId : Option String) : Dict Value :=
  [("event_type", .str "document.uploaded"), ("event_version", .int 1),
    ("document_id", .str document.id.str), ("blob_container", .str document.blobContainer),
    ("blob_name", .str document.blobName), ("blob_url", .str document.blobUrl),
    ("content_type", .str document.contentType), ("size_bytes", .int document.sizeBytes),
    ("sha256_hex", .str document.sha256Hex),
    ("uploaded_at", .str (DateTime.isoformat document.createdAt)),
    ("request_id", Value.optionalStr requestId)]

/-! ## The stores -/

structure Blob where
  name : String
  payload : ByteArray
  contentType : String
  sha256 : String

/-- The widths of the columns of `documents`. -/
def Document.fits (document : Document) : Bool :=
  document.originalFilename.length ≤ 512 && document.contentType.length ≤ 256 &&
    document.sizeBytes < 2 ^ 31 && document.sha256Hex.length ≤ 64 &&
    document.blobContainer.length ≤ 128 && document.blobName.length ≤ 1024 &&
    document.blobEtag.length ≤ 128 && document.idempotencyKey.all (fun key => key.length ≤ 128)

structure Stores where
  documents : Table Document.id
  outbox : Table OutboxRecord.id
  blobs : Table Blob.name
  /-- The sequence of `outbox.id`, which no rollback sets back. -/
  nextOutboxId : Nat

def Stores.empty : Stores := ⟨.empty, .empty, .empty, 1⟩

/-- The steps of an upload that may fail. -/
inductive UploadStep where
  | upload
  | lookup
  | insertDocument
  | insertOutbox
  | commit
  deriving DecidableEq

/-- The use case, with the interpreter, `sha256(…).hexdigest()`, and the container of the storage
with the urls of its blobs. -/
structure UploadDocument where
  py : Interpreter
  sha256 : ByteArray → String
  containerName : String
  blobUrl : String → String
  topicName : String

/-- A call: its command, `uuid4()`, the readings of the clock in `execute` and in the storage, the
etag of the blob, and how each step is delivered. -/
structure UploadCall where
  command : UploadDocumentCommand
  documentId : Uuid
  now : DateTime
  uploadedAt : DateTime
  etag : String
  delivery : UploadStep → Delivery := fun _ => .arrives

/-- A call that arrives, or is lost, or takes effect and raises all the same. -/
def delivered {α W : Type} (delivery : Delivery) (w : W) (called : Except PyError α × W) :
    Except PyError α × W :=
  match delivery with
  | .arrives => called
  | .lost e => (.error e, w)
  | .late e => (.error e, called.2)

namespace UploadDocument

variable (useCase : UploadDocument) (call : UploadCall)

/-- `f"{now:%Y/%m/%d}/{document_id}_{safe_name}"`. -/
def blobName : String :=
  let (year, month, day) := DateTime.civil (call.uploadedAt / DateTime.dayMicros)
  let safeName := call.command.originalFilename.map (fun c => if c = '/' ∨ c = '\\' then '_' else c)
  DateTime.padded 4 year ++ "/" ++ DateTime.padded 2 month ++ "/" ++ DateTime.padded 2 day ++ "/" ++
    call.documentId.str ++ "_" ++ safeName

/-- The blob that the call uploads. -/
def blob : Blob where
  name := blobName call
  payload := call.command.contentBytes
  contentType := call.command.contentType
  sha256 := useCase.sha256 call.command.contentBytes

/-- `AzureBlobStorage.upload` without `overwrite`. -/
def upload (blobs : Table Blob.name) : Except PyError BlobUploadResult × Table Blob.name :=
  if (blobs.find? (blobName call)).isSome then
    (.error ⟨"ResourceExistsError", "The specified blob already exists.", true⟩, blobs)
  else
    (.ok {
      container := useCase.containerName
      blobName := blobName call
      blobUrl := useCase.blobUrl (blobName call)
      etag := call.etag }, blobs.put (useCase.blob call))

/-- `Document.create`. -/
def document (result : BlobUploadResult) : Document where
  id := call.documentId
  originalFilename := strip call.command.originalFilename
  contentType := useCase.py.lower (strip call.command.contentType)
  sizeBytes := call.command.contentBytes.size
  sha256Hex := useCase.sha256 call.command.contentBytes
  blobContainer := result.container
  blobName := result.blobName
  blobUrl := result.blobUrl
  blobEtag := result.etag
  status := "queued"
  siteCode := none
  createdAt := call.now
  idempotencyKey := call.command.idempotencyKey

/-- The message that is put into the outbox. -/
def message (document : Document) : OutboxMessage where
  topic := useCase.topicName
  key := document.id.str
  payload := uploadedEvent document call.command.requestId
  headers := [("event_type", "document.uploaded"), ("event_version", "1"),
    ("content_type", "application/json")]

/-- The lookup by the idempotency key; an empty one is not looked up. -/
def checkKey (documents : Table Document.id) : Except PyError Unit :=
  match call.command.idempotencyKey with
  | none | some "" => .ok ()
  | some key =>
    let found := documents.rows.any (fun row => row.idempotencyKey = some key)
    match (delivered (call.delivery .lookup) documents (.ok found, documents)).1 with
    | .error e => .error e
    | .ok found =>
      if found then
        .error ⟨"DocumentAlreadyExistsError", "idempotency key already used", true⟩
      else .ok ()

/-- The flush of the document: the primary key and the unique idempotency key. -/
def insertDocument (document : Document) (s : Stores) : Except PyError Unit × Stores :=
  if !document.fits then
    (.error ⟨"DBAPIError", "value too long for type character varying", true⟩, s)
  else if (s.documents.find? document.id).isSome then
    (.error ⟨"IntegrityError", "pk_documents", true⟩, s)
  else if document.idempotencyKey.any
      (fun key => s.documents.rows.any (fun row => row.idempotencyKey = some key)) then
    (.error ⟨"IntegrityError", "uq_documents_idempotency_key", true⟩, s)
  else (.ok (), { s with documents := s.documents.put document })

/-- `OutboxRepository.add`, with the next number of the sequence. -/
def insertOutbox (document : Document) (s : Stores) : Except PyError Unit × Stores :=
  let row := newRecord s.nextOutboxId (useCase.message call document) call.now
  if (s.outbox.find? row.id).isSome then
    (.error ⟨"IntegrityError", "pk_outbox", true⟩, { s with nextOutboxId := s.nextOutboxId + 1 })
  else (.ok (), { s with outbox := s.outbox.put row, nextOutboxId := s.nextOutboxId + 1 })

/-- The unit of work. The tables that it sees are those that others see when it has committed. -/
def writeRows (document : Document) (s : Stores) : Except PyError Unit × Stores :=
  match checkKey call s.documents with
  | .error e => (.error e, s)
  | .ok _ =>
    match delivered (call.delivery .insertDocument) s (insertDocument document s) with
    | (.error e, _) => (.error e, s)
    | (.ok _, seen) =>
      match delivered (call.delivery .insertOutbox) seen
          (useCase.insertOutbox call document seen) with
      | (.error e, seen) => (.error e, { s with nextOutboxId := seen.nextOutboxId })
      | (.ok _, seen) =>
        delivered (call.delivery .commit) { s with nextOutboxId := seen.nextOutboxId }
          (.ok (), seen)

/-- `execute`. -/
def execute (s : Stores) : Except PyError UploadedDocumentDTO × Stores :=
  match delivered (call.delivery .upload) s.blobs (useCase.upload call s.blobs) with
  | (.error e, blobs) =>
    (if e.isException then .error ⟨"StorageUploadFailedError", "blob upload failed", true⟩
      else .error e, { s with blobs := blobs })
  | (.ok result, blobs) =>
    let document := useCase.document call result
    match useCase.writeRows call document { s with blobs := blobs } with
    | (.error e, s') => (.error e, s')
    | (.ok _, s') => (.ok (.fromEntity document), s')

/-- Calls one after another, whatever becomes of them. -/
def executeAll (calls : List UploadCall) (s : Stores) : Stores :=
  calls.foldl (fun s call => (useCase.execute call s).2) s

end UploadDocument

/-! ## What an upload leaves -/

/-- What is known of the stores between calls. -/
structure Consistent (s : Stores) : Prop where
  keysUnique : ∀ document ∈ s.documents, ∀ document' ∈ s.documents, ∀ key,
    document.idempotencyKey = some key → document'.idempotencyKey = some key → document = document'
  outboxKeys : ∀ row ∈ s.outbox, ∃ document ∈ s.documents, row.key = document.id.str
  outboxIds : ∀ row ∈ s.outbox, row.id < s.nextOutboxId

/-- The call's blob is stored: there was none of that name, and the upload was not lost. -/
def UploadCall.storesBlob (call : UploadCall) (s : Stores) : Bool :=
  (s.blobs.find? (UploadDocument.blobName call)).isNone &&
    match call.delivery .upload with
    | .lost _ => false
    | .arrives | .late _ => true

/-- The call has stored the blob, one document and one event about it. -/
structure UploadStored (useCase : UploadDocument) (call : UploadCall) (s s' : Stores)
    (document : Document) (row : OutboxRecord) : Prop where
  blobs : s'.blobs.rows = s.blobs.rows ++ [useCase.blob call]
  blobName : document.blobName = (useCase.blob call).name
  documents : s'.documents.rows = s.documents.rows ++ [document]
  oneDocument : s'.documents.rows.filter (fun other => other.id = document.id) = [document]
  outbox : s'.outbox.rows = s.outbox.rows ++ [row]
  oneRow : s'.outbox.rows.filter (fun other => other.key = document.id.str) = [row]
  event : row.message = useCase.message call document

/-- The call has left the tables alone; its blob stays when it has been uploaded. -/
structure UploadUndone (useCase : UploadDocument) (call : UploadCall) (s s' : Stores) : Prop where
  documents : s'.documents = s.documents
  outbox : s'.outbox = s.outbox
  blobs : s'.blobs.rows =
    s.blobs.rows ++ if call.storesBlob s then [useCase.blob call] else []

section

variable {useCase : UploadDocument} {call : UploadCall} {s : Stores}

/-- What returns has arrived. -/
theorem delivered_ok {α W : Type} {delivery : Delivery} {w w' : W} {called : Except PyError α × W}
    {a : α} (h : delivered delivery w called = (.ok a, w')) : called = (.ok a, w') := by
  cases delivery with
  | arrives => exact h
  | lost e => cases h
  | late e => cases h

/-- What raises has taken effect or not. -/
theorem delivered_error {α W : Type} {delivery : Delivery} {w w' : W}
    {called : Except PyError α × W} {e : PyError}
    (h : delivered delivery w called = (.error e, w')) : w' = w ∨ w' = called.2 := by
  cases delivery with
  | arrives => exact .inr (by rw [show called = _ from h])
  | lost e => exact .inl (Prod.mk.inj h).2.symm
  | late e => exact .inr (Prod.mk.inj h).2.symm

/-- What an upload leaves in the storage. -/
theorem rows_upload (useCase : UploadDocument) (call : UploadCall) (s : Stores) :
    (delivered (call.delivery .upload) s.blobs (useCase.upload call s.blobs)).2.rows =
      s.blobs.rows ++ if call.storesBlob s then [useCase.blob call] else [] := by
  unfold UploadCall.storesBlob UploadDocument.upload
  cases hfind : s.blobs.find? (UploadDocument.blobName call) with
  | some blob => cases call.delivery .upload <;> simp [delivered]
  | none =>
    have hput : (s.blobs.put (useCase.blob call)).rows = s.blobs.rows ++ [useCase.blob call] :=
      Table.rows_put_of_find?_eq_none hfind
    cases call.delivery .upload <;> simp [delivered, hput]

theorem upload_ok {blobs blobs' : Table Blob.name} {result : BlobUploadResult}
    (h : useCase.upload call blobs = (.ok result, blobs')) :
    result.container = useCase.containerName ∧ result.blobName = (useCase.blob call).name ∧
      blobs'.rows = blobs.rows ++ [useCase.blob call] := by
  unfold UploadDocument.upload at h
  split at h
  · cases h
  · rename_i hfresh
    cases h
    refine ⟨rfl, rfl, Table.rows_put_of_find?_eq_none ?_⟩
    exact Option.not_isSome_iff_eq_none.mp hfresh

theorem insertDocument_ok {document : Document} {s' : Stores}
    (h : UploadDocument.insertDocument document s = (.ok (), s')) :
    s.documents.find? document.id = none ∧ s' = { s with documents := s.documents.put document } ∧
      ∀ key, document.idempotencyKey = some key →
        ∀ row ∈ s.documents, row.idempotencyKey ≠ some key := by
  unfold UploadDocument.insertDocument at h
  split at h
  · cases h
  split at h
  · cases h
  rename_i hfresh
  split at h
  · cases h
  rename_i hkey
  cases h
  refine ⟨Option.not_isSome_iff_eq_none.mp hfresh, rfl, ?_⟩
  intro key hsome row hrow heq
  apply hkey
  rw [hsome]
  exact List.any_eq_true.mpr ⟨row, hrow, decide_eq_true heq⟩

theorem insertOutbox_ok {document : Document} {s' : Stores}
    (h : useCase.insertOutbox call document s = (.ok (), s')) :
    s'.outbox.rows = s.outbox.rows ++
        [newRecord s.nextOutboxId (useCase.message call document) call.now] ∧
      s'.documents = s.documents ∧ s'.blobs = s.blobs ∧
      s'.nextOutboxId = s.nextOutboxId + 1 := by
  unfold UploadDocument.insertOutbox at h
  dsimp only at h
  split at h
  · cases h
  · rename_i hfresh
    cases h
    refine ⟨Table.rows_put_of_find?_eq_none ?_, rfl, rfl, rfl⟩
    exact Option.not_isSome_iff_eq_none.mp hfresh

/-- An insert into the outbox draws at most one number. -/
theorem nextOutboxId_insertOutbox (document : Document) :
    (useCase.insertOutbox call document s).2.nextOutboxId = s.nextOutboxId + 1 := by
  unfold UploadDocument.insertOutbox
  dsimp only
  split <;> rfl

/-- The transaction has inserted both rows. -/
structure RowsWritten (useCase : UploadDocument) (call : UploadCall) (document : Document)
    (s s' : Stores) : Prop where
  fresh : s.documents.find? document.id = none
  keys : ∀ key, document.idempotencyKey = some key →
    ∀ row ∈ s.documents, row.idempotencyKey ≠ some key
  documents : s'.documents.rows = s.documents.rows ++ [document]
  outbox : s'.outbox.rows = s.outbox.rows ++
    [newRecord s.nextOutboxId (useCase.message call document) call.now]
  blobs : s'.blobs = s.blobs
  nextOutboxId : s'.nextOutboxId = s.nextOutboxId + 1

/-- The transaction has used up a number of the sequence at most. -/
structure RowsLeft (s s' : Stores) : Prop where
  documents : s'.documents = s.documents
  outbox : s'.outbox = s.outbox
  blobs : s'.blobs = s.blobs
  nextOutboxId : s.nextOutboxId ≤ s'.nextOutboxId

/-- The transaction inserts both rows, or neither; it raises in the first case only when the reply
to its commit is lost. -/
theorem writeRows_spec (useCase : UploadDocument) (call : UploadCall) (document : Document)
    (s : Stores) :
    match useCase.writeRows call document s with
    | (.ok _, s') => RowsWritten useCase call document s s'
    | (.error _, s') => RowsLeft s s' ∨
      (∃ e, call.delivery .commit = .late e) ∧ RowsWritten useCase call document s s' := by
  unfold UploadDocument.writeRows
  cases UploadDocument.checkKey call s.documents with
  | error e => exact .inl ⟨rfl, rfl, rfl, le_rfl⟩
  | ok _ =>
    dsimp only
    cases hdocument : delivered (call.delivery .insertDocument) s
        (UploadDocument.insertDocument document s) with
    | mk reply seen =>
    cases reply with
    | error e => exact .inl ⟨rfl, rfl, rfl, le_rfl⟩
    | ok _ =>
      obtain ⟨hfresh, rfl, hkeys⟩ := insertDocument_ok (delivered_ok hdocument)
      dsimp only
      cases houtbox : delivered (call.delivery .insertOutbox)
          { s with documents := s.documents.put document }
          (useCase.insertOutbox call document
            { s with documents := s.documents.put document }) with
      | mk reply seen =>
      cases reply with
      | error e =>
        refine .inl ⟨rfl, rfl, rfl, ?_⟩
        rcases delivered_error houtbox with rfl | rfl
        · exact le_rfl
        · rw [nextOutboxId_insertOutbox]
          exact Nat.le_succ _
      | ok _ =>
        obtain ⟨hrows, hdocuments, hblobs, hnext⟩ := insertOutbox_ok (delivered_ok houtbox)
        have hwritten : RowsWritten useCase call document s seen := {
          fresh := hfresh
          keys := hkeys
          documents := by
            rw [hdocuments]
            exact Table.rows_put_of_find?_eq_none hfresh
          outbox := hrows
          blobs := hblobs
          nextOutboxId := hnext }
        dsimp only
        cases hcommit : call.delivery .commit with
        | arrives => exact hwritten
        | lost e => exact .inl ⟨rfl, rfl, rfl, by rw [hnext]; exact Nat.le_succ _⟩
        | late e => exact .inr ⟨⟨e, rfl⟩, hwritten⟩

/-- An id that no document has is the key of no row. -/
theorem Consistent.key_ne (h : Consistent s) {id : Uuid} (hfresh : s.documents.find? id = none) :
    ∀ row ∈ s.outbox, row.key ≠ id.str := by
  intro row hrow heq
  obtain ⟨document, hdocument, hkey⟩ := h.outboxKeys row hrow
  have hid : document.id = id := Uuid.str_injective (hkey.symm.trans heq)
  exact Table.find?_eq_none_iff.mp hfresh document hdocument hid

theorem filter_append_self {α : Type} {rows : List α} {row : α} {p : α → Bool}
    (hrows : ∀ other ∈ rows, p other = false) (hrow : p row = true) :
    (rows ++ [row]).filter p = [row] := by
  rw [List.filter_append, List.filter_eq_nil_iff.mpr (by simpa using hrows), List.nil_append,
    List.filter_cons_of_pos hrow, List.filter_nil]

/-- Both rows are there, beside the blob of the call. -/
theorem UploadStored.of_written (h : Consistent s) {result : BlobUploadResult}
    {blobs : Table Blob.name} {s' : Stores}
    (hupload : useCase.upload call s.blobs = (.ok result, blobs))
    (hwritten : RowsWritten useCase call (useCase.document call result)
      { s with blobs := blobs } s') :
    UploadStored useCase call s s' (useCase.document call result)
      (newRecord s.nextOutboxId (useCase.message call (useCase.document call result))
        call.now) := by
  obtain ⟨-, hname, hblobs⟩ := upload_ok hupload
  have hids := Table.find?_eq_none_iff.mp hwritten.fresh
  refine ⟨?_, hname, hwritten.documents, ?_, hwritten.outbox, ?_, rfl⟩
  · rw [hwritten.blobs]
    exact hblobs
  · rw [hwritten.documents]
    exact filter_append_self (fun other hother => decide_eq_false (hids other hother))
      (decide_eq_true rfl)
  · rw [hwritten.outbox]
    exact filter_append_self
      (fun other hother => decide_eq_false (h.key_ne hwritten.fresh other hother))
      (decide_eq_true rfl)

/-- One call either does everything, or leaves the tables alone; a call that raises has done
everything only when the reply to its commit was lost. -/
theorem execute_spec (useCase : UploadDocument) (call : UploadCall) (h : Consistent s) :
    match useCase.execute call s with
    | (.ok dto, s') => ∃ document row, dto = .fromEntity document ∧
      UploadStored useCase call s s' document row
    | (.error _, s') => UploadUndone useCase call s s' ∨
      (∃ e, call.delivery .commit = .late e) ∧
        ∃ document row, UploadStored useCase call s s' document row := by
  have hstored := rows_upload useCase call s
  unfold UploadDocument.execute
  cases hupload : delivered (call.delivery .upload) s.blobs (useCase.upload call s.blobs) with
  | mk reply blobs =>
  rw [hupload] at hstored
  cases reply with
  | error e =>
    dsimp only
    cases e.isException
    · exact .inl ⟨rfl, rfl, hstored⟩
    · exact .inl ⟨rfl, rfl, hstored⟩
  | ok result =>
    have hrows := writeRows_spec useCase call (useCase.document call result)
      { s with blobs := blobs }
    dsimp only
    cases hwrite : useCase.writeRows call (useCase.document call result)
      { s with blobs := blobs } with
    | mk reply s' =>
    rw [hwrite] at hrows
    cases reply with
    | ok _ => exact ⟨_, _, rfl, .of_written h (delivered_ok hupload) hrows⟩
    | error e =>
      rcases hrows with hleft | ⟨hlate, hwritten⟩
      · refine .inl ⟨hleft.documents, hleft.outbox, ?_⟩
        rw [hleft.blobs]
        exact hstored
      · exact .inr ⟨hlate, _, _, .of_written h (delivered_ok hupload) hwritten⟩

theorem Consistent.left {s' : Stores} (h : Consistent s) (hleft : RowsLeft s s') :
    Consistent s' := by
  refine ⟨?_, ?_, ?_⟩
  · rw [hleft.documents]
    exact h.keysUnique
  · rw [hleft.outbox, hleft.documents]
    exact h.outboxKeys
  · intro row hrow
    rw [hleft.outbox] at hrow
    have hless := h.outboxIds row hrow
    have hnext := hleft.nextOutboxId
    omega

theorem Consistent.written {document : Document} {s' : Stores} (h : Consistent s)
    (hwritten : RowsWritten useCase call document s s') : Consistent s' := by
  have hmem : ∀ {row : Document}, row ∈ s'.documents ↔ row ∈ s.documents ∨ row = document := by
    intro row
    rw [Table.mem_def, hwritten.documents, List.mem_append, List.mem_singleton]
    rfl
  have hoccupied : ∀ row ∈ s'.outbox, row ∈ s.outbox ∨
      row = newRecord s.nextOutboxId (useCase.message call document) call.now := by
    intro row hrow
    rw [Table.mem_def, hwritten.outbox, List.mem_append, List.mem_singleton] at hrow
    exact hrow
  refine ⟨?_, ?_, ?_⟩
  · intro row hrow row' hrow' key hkey hkey'
    rcases hmem.mp hrow with hold | rfl <;> rcases hmem.mp hrow' with hold' | rfl
    · exact h.keysUnique row hold row' hold' key hkey hkey'
    · exact absurd hkey (hwritten.keys key hkey' row hold)
    · exact absurd hkey' (hwritten.keys key hkey row' hold')
    · rfl
  · intro row hrow
    rcases hoccupied row hrow with hold | rfl
    · obtain ⟨document', hdocument, hkey⟩ := h.outboxKeys row hold
      exact ⟨document', hmem.mpr (.inl hdocument), hkey⟩
    · exact ⟨document, hmem.mpr (.inr rfl), rfl⟩
  · intro row hrow
    rw [hwritten.nextOutboxId]
    rcases hoccupied row hrow with hold | rfl
    · have hless := h.outboxIds row hold
      omega
    · change (s.nextOutboxId : Int) < _
      omega

/-- The stores stay consistent. -/
theorem Consistent.execute (h : Consistent s) (useCase : UploadDocument) (call : UploadCall) :
    Consistent (useCase.execute call s).2 := by
  unfold UploadDocument.execute
  cases delivered (call.delivery .upload) s.blobs (useCase.upload call s.blobs) with
  | mk reply blobs =>
  -- the tables do not know of the blobs
  have hblobs : Consistent { s with blobs := blobs } :=
    ⟨h.keysUnique, h.outboxKeys, h.outboxIds⟩
  cases reply with
  | error e => exact hblobs
  | ok result =>
    have hrows := writeRows_spec useCase call (useCase.document call result)
      { s with blobs := blobs }
    dsimp only
    cases hwrite : useCase.writeRows call (useCase.document call result)
      { s with blobs := blobs } with
    | mk reply s' =>
    rw [hwrite] at hrows
    cases reply with
    | ok _ => exact hblobs.written hrows
    | error e =>
      rcases hrows with hleft | ⟨-, hwritten⟩
      · exact hblobs.left hleft
      · exact hblobs.written hwritten

end

/-! ## Runs -/

theorem consistent_empty : Consistent .empty :=
  ⟨fun row hrow => absurd hrow (Table.not_mem_empty row),
    fun row hrow => absurd hrow (Table.not_mem_empty row),
    fun row hrow => absurd hrow (Table.not_mem_empty row)⟩

theorem consistent_executeAll (useCase : UploadDocument) (calls : List UploadCall) {s : Stores}
    (h : Consistent s) : Consistent (useCase.executeAll calls s) := by
  induction calls generalizing s with
  | nil => exact h
  | cons call rest ih => exact ih (h.execute useCase call)

/-- After any calls no two documents share an idempotency key, and the next call does everything or
leaves the tables alone; when it raises, it has done everything only if the reply to its commit was
lost. -/
theorem uploadsAtomic (useCase : UploadDocument) (calls : List UploadCall) (call : UploadCall) :
    let s := useCase.executeAll calls .empty
    (∀ document ∈ s.documents, ∀ document' ∈ s.documents, ∀ key,
      document.idempotencyKey = some key → document'.idempotencyKey = some key →
        document = document') ∧
    match useCase.execute call s with
    | (.ok dto, s') => ∃ document row, dto = .fromEntity document ∧
      UploadStored useCase call s s' document row
    | (.error _, s') => UploadUndone useCase call s s' ∨
      (∃ e, call.delivery .commit = .late e) ∧
        ∃ document row, UploadStored useCase call s s' document row := by
  intro s
  have hconsistent : Consistent s := consistent_executeAll useCase calls consistent_empty
  exact ⟨hconsistent.keysUnique, execute_spec useCase call hconsistent⟩

/-! ## What stays -/

def plainStorage : UploadDocument where
  py := .ascii
  sha256 _ := "0"
  containerName := "documents"
  blobUrl name := "https://storage/" ++ name
  topicName := "document.uploaded.v1"

/-- An upload whose commit is delivered in some way. -/
def committing (delivery : Delivery) : UploadCall where
  command := ⟨"manual.txt", "text/plain", ⟨#[72, 105]⟩, none, some "key-1"⟩
  documentId := .ofNat 1
  now := 0
  uploadedAt := 0
  etag := "etag"
  delivery
    | .commit => delivery
    | _ => .arrives

def connectionClosed : PyError := ⟨"DBAPIError", "connection is closed", true⟩

/-- When the transaction fails, the blob is not taken back; when only the reply to its commit is
lost, both rows are there. -/
theorem not_uploadsAtomic :
    (¬∀ (useCase : UploadDocument) (calls : List UploadCall) (call : UploadCall),
      let s := useCase.executeAll calls .empty
      (useCase.execute call s).1.isOk = false → (useCase.execute call s).2.blobs = s.blobs) ∧
    ¬∀ (useCase : UploadDocument) (calls : List UploadCall) (call : UploadCall),
      let s := useCase.executeAll calls .empty
      (useCase.execute call s).1.isOk = false →
        (useCase.execute call s).2.documents = s.documents := by
  constructor
  · intro hrestores
    have hblobs := hrestores plainStorage [] (committing (.lost connectionClosed))
      (by decide +kernel)
    have hrows := congrArg (fun blobs => blobs.rows.length) hblobs
    have hone : (plainStorage.execute (committing (.lost connectionClosed))
        .empty).2.blobs.rows.length = 1 := by
      decide +kernel
    cases hone.symm.trans hrows
  · intro hrestores
    have hdocuments := hrestores plainStorage [] (committing (.late connectionClosed))
      (by decide +kernel)
    have hrows := congrArg (fun documents => documents.rows.length) hdocuments
    have hone : (plainStorage.execute (committing (.late connectionClosed))
        .empty).2.documents.rows.length = 1 := by
      decide +kernel
    cases hone.symm.trans hrows

end HotAirBalloon.Uploads
