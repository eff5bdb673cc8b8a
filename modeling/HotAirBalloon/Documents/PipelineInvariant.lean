import HotAirBalloon.Documents.Pipeline

/-!
# What the pipeline keeps

`PipelineInv` says how the tables of the pipeline belong together, and `Grows` what a step of a
process may do to them. Both are kept over any interleaving, with any failing calls; here by the
uploads.
-/

namespace HotAirBalloon.Pipeline

open Python Library Memory Outbox Uploads
open Documents
    (Assignment DocumentRecord IngestionOp DocumentIngestionConsumer documentAfter eventAfter
  pendingEvents)

variable {ι : Type}

/-! ## What holds of the tables -/

/-- The chunks of a document: the text of its blob, split. -/
def DocumentsModule.chunksOf (m : DocumentsModule) (w : PipelineWorld ι) (document : Document) :
    Except PyError (List String) := do
  let payload ← w.download m.uploadDocument document.blobContainer document.blobName
  let text ← m.ingestionConsumer.textExtractor.extract document.contentType payload
  m.ingestionConsumer.chunker.chunk text

/-- The chunks are stored for a document in their order and, if no run is broken off, no others
are. -/
structure Stored (unbroken : Prop) (w : PipelineWorld ι) (documentId : Uuid)
    (chunks : List String) : Prop where
  sublist : chunks.Sublist (w.storedChunks documentId)
  exact : unbroken → w.storedChunks documentId = chunks

/-- The status and the error of a document, and the mark of its event, as they go together. -/
inductive Settled (m : DocumentsModule) (unbroken : Prop) (w : PipelineWorld ι)
    (document : Document) : String → Option String → Option DateTime → Prop
  | queued : Settled m unbroken w document "queued" none none
  | indexed {chunks : List String} {now : DateTime} (split : m.chunksOf w document = .ok chunks)
      (stored : Stored unbroken w document.id chunks) :
      Settled m unbroken w document "indexed" none (some now)
  | failed {error : String} {now : DateTime} (short : error.length ≤ 4000)
      (stored : Stored unbroken w document.id []) :
      Settled m unbroken w document "failed" (some error) (some now)

/-- The blob of a document holds what was uploaded. -/
structure BlobOf (m : DocumentsModule) (document : Document) (blob : Blob) : Prop where
  container : document.blobContainer = m.uploadDocument.containerName
  name : document.blobName = blob.name
  size : document.sizeBytes = blob.payload.size
  sha256 : document.sha256Hex = m.uploadDocument.sha256 blob.payload

structure PipelineInv (m : DocumentsModule) (unbroken : Prop) (w : PipelineWorld ι) : Prop where
  keysUnique : ∀ document ∈ w.documents, ∀ document' ∈ w.documents, ∀ key,
    document.idempotencyKey = some key → document'.idempotencyKey = some key → document = document'
  blobs : ∀ document ∈ w.documents, ∃ blob ∈ w.blobs, BlobOf m document blob
  announced : ∀ document ∈ w.documents, ∃ row ∈ w.outbox, row.key = document.id.str
  named : ∀ row ∈ w.outbox, ∃ document ∈ w.documents, ∃ call,
    row.message = m.uploadDocument.message call document
  once : ∀ row ∈ w.outbox, ∀ row' ∈ w.outbox, row.key = row'.key → row = row'
  settled : ∀ document ∈ w.documents, ∀ row ∈ w.outbox, row.key = document.id.str →
    Settled m unbroken w document document.status (w.ingestionErrors document.id) row.ingestedAt
  noError : ∀ id, (∀ document ∈ w.documents, document.id ≠ id) → w.ingestionErrors id = none
  memories : ∀ memory ∈ w.memories, ∃ document ∈ w.documents, ∃ chunks,
    m.chunksOf w document = .ok chunks ∧ ∃ chunk ∈ chunks,
      memory = DocumentIngestionConsumer.chunkMemory (w.record document) chunk
  sound : ∀ row ∈ w.outbox, RowSound m.outboxPublisher.maxRetries w.log row
  exclusive : ∀ i j id, (i, id) ∈ w.locks → (j, id) ∈ w.locks → i = j
  /-- What no session is about to mark has no chunks. -/
  clean : unbroken → ∀ document ∈ w.documents, ∀ row ∈ w.outbox, row.key = document.id.str →
    row.ingestedAt = none → (∀ i, w.uncommitted i ≠ 0 → (i, row.id) ∉ w.locks) →
    w.storedChunks document.id = []

/-- What stays: documents but for their statuses, events but for their marks, blobs, chunks and
calls. -/
structure Keeps (w w' : PipelineWorld ι) : Prop where
  documents : ∀ document ∈ w.documents, ∃ status, { document with status := status } ∈ w'.documents
  outbox : ∀ row ∈ w.outbox, ∃ row' ∈ w'.outbox, row'.id = row.id ∧ row'.message = row.message
  blobs : ∀ blob ∈ w.blobs, blob ∈ w'.blobs
  memories : w.memories <+: w'.memories
  log : w.log ⊆ w'.log

/-- What a step of process `i` may do. -/
structure Grows (i : ι) (w w' : PipelineWorld ι) : Prop extends Keeps w w' where
  assigned : ∀ j, j ≠ i → w'.assigned j = w.assigned j
  uncommitted : ∀ j, j ≠ i → w'.uncommitted j = w.uncommitted j
  locks : ∀ j, j ≠ i → ∀ id, (j, id) ∈ w'.locks ↔ (j, id) ∈ w.locks
  /-- What another process has locked stays. -/
  held : ∀ j, j ≠ i → ∀ row ∈ w.outbox, (j, row.id) ∈ w.locks →
    (∃ row' ∈ w'.outbox, eventOf row' = eventOf row) ∧
      ∀ id : Uuid, row.key = id.str → w'.storedChunks id = w.storedChunks id

section

variable {m : DocumentsModule} {unbroken : Prop} {w w' : PipelineWorld ι} {document : Document}

theorem download_mono (hblobs : ∀ blob ∈ w.blobs, blob ∈ w'.blobs) {container blobName : String}
    {payload : ByteArray} (h : w.download m.uploadDocument container blobName = .ok payload) :
    w'.download m.uploadDocument container blobName = .ok payload := by
  unfold PipelineWorld.download at h ⊢
  split at h
  · rename_i hcontainer
    rw [if_pos hcontainer]
    split at h
    · rename_i blob hblob
      obtain ⟨hmem, hname⟩ := Table.find?_eq_some_iff.mp hblob
      rw [Table.find?_eq_some_iff.mpr ⟨hblobs blob hmem, hname⟩]
      exact h
    · cases h
  · cases h

/-- Blobs that are added change no document's chunks. -/
theorem chunksOf_mono (document : Document) (hblobs : ∀ blob ∈ w.blobs, blob ∈ w'.blobs)
    {chunks : List String} (h : m.chunksOf w document = .ok chunks) :
    m.chunksOf w' document = .ok chunks := by
  unfold DocumentsModule.chunksOf at h ⊢
  cases hpayload : w.download m.uploadDocument document.blobContainer document.blobName with
  | error e =>
    rw [hpayload] at h
    cases h
  | ok payload =>
    rw [hpayload] at h
    rw [download_mono hblobs hpayload]
    exact h

theorem Keeps.refl (w : PipelineWorld ι) : Keeps w w where
  documents document hdocument := ⟨document.status, hdocument⟩
  outbox row hrow := ⟨row, hrow, rfl, rfl⟩
  blobs _ hblob := hblob
  memories := List.prefix_refl _
  log _ hentry := hentry

theorem Keeps.trans {w'' : PipelineWorld ι} (h : Keeps w w') (h' : Keeps w' w'') : Keeps w w'' where
  documents document hdocument := by
    obtain ⟨status, hmem⟩ := h.documents document hdocument
    obtain ⟨status', hmem'⟩ := h'.documents _ hmem
    exact ⟨status', hmem'⟩
  outbox row hrow := by
    obtain ⟨row', hrow', hid, hmessage⟩ := h.outbox row hrow
    obtain ⟨row'', hrow'', hid', hmessage'⟩ := h'.outbox row' hrow'
    exact ⟨row'', hrow'', hid'.trans hid, hmessage'.trans hmessage⟩
  blobs blob hblob := h'.blobs blob (h.blobs blob hblob)
  memories := h.memories.trans h'.memories
  log _ hentry := h'.log (h.log hentry)

/-- No chunk is taken back. -/
theorem Keeps.storedChunks (h : Keeps w w') (id : Uuid) :
    (w.storedChunks id).Sublist (w'.storedChunks id) :=
  (h.memories.sublist.filter _).map _

theorem Stored.congr {id : Uuid} {chunks : List String} (h : Stored unbroken w id chunks)
    (hsame : w'.storedChunks id = w.storedChunks id) : Stored unbroken w' id chunks :=
  ⟨by rw [hsame]; exact h.sublist, fun hunbroken => hsame.trans (h.exact hunbroken)⟩

/-- What is settled stays settled while the chunks of the document stay. -/
theorem Settled.congr {status : String} {error : Option String} {mark : Option DateTime}
    (h : Settled m unbroken w document status error mark) (w' : PipelineWorld ι)
    (hblobs : ∀ blob ∈ w.blobs, blob ∈ w'.blobs)
    (hsame : mark ≠ none → w'.storedChunks document.id = w.storedChunks document.id)
    (other : String) :
    Settled m unbroken w' { document with status := other } status error mark := by
  cases h with
  | queued => exact .queued
  | indexed hsplit hstored =>
    exact .indexed (chunksOf_mono document hblobs hsplit) (hstored.congr (hsame nofun))
  | failed hshort hstored => exact .failed hshort (hstored.congr (hsame nofun))

theorem Grows.refl (i : ι) (w : PipelineWorld ι) : Grows i w w where
  toKeeps := .refl w
  assigned _ _ := rfl
  uncommitted _ _ := rfl
  locks _ _ _ := Iff.rfl
  held _ _ row hrow _ := ⟨⟨row, hrow, rfl⟩, fun _ _ => rfl⟩

end

/-! ## Uploads -/

section

variable {m : DocumentsModule} {unbroken : Prop} {w w' : PipelineWorld ι} {document : Document}
  {call : UploadCall}

/-- More blobs. -/
theorem PipelineInv.withBlobs (h : PipelineInv m unbroken w) {blobs : Table Blob.name}
    (hblobs : ∀ blob ∈ w.blobs, blob ∈ blobs) :
    PipelineInv m unbroken { w with blobs := blobs } where
  keysUnique := h.keysUnique
  blobs document hdocument := by
    obtain ⟨blob, hblob, hof⟩ := h.blobs document hdocument
    exact ⟨blob, hblobs blob hblob, hof⟩
  announced := h.announced
  named := h.named
  once := h.once
  settled document hdocument row hrow hkey :=
    (h.settled document hdocument row hrow hkey).congr { w with blobs := blobs } hblobs
      (fun _ => rfl) document.status
  noError := h.noError
  memories memory hmemory := by
    obtain ⟨document, hdocument, chunks, hchunks, hchunk⟩ := h.memories memory hmemory
    exact ⟨document, hdocument, chunks, chunksOf_mono document hblobs hchunks, hchunk⟩
  sound := h.sound
  exclusive := h.exclusive
  clean := h.clean

theorem PipelineInv.uploadBlob (h : PipelineInv m unbroken w) (i : ι) (call : UploadCall) :
    PipelineInv m unbroken (m.uploadBlob w call).2 ∧ Grows i w (m.uploadBlob w call).2 ∧
      ∀ result, (m.uploadBlob w call).1 = .ok result → ∃ blob ∈ (m.uploadBlob w call).2.blobs,
        BlobOf m (m.uploadDocument.document call result) blob := by
  have hblobs : ∀ blob ∈ w.blobs, blob ∈ (m.uploadBlob w call).2.blobs := by
    intro blob hblob
    rw [Table.mem_def]
    have hrows := rows_upload m.uploadDocument call (w.stores 0)
    change (m.uploadBlob w call).2.blobs.rows = w.blobs.rows ++ _ at hrows
    rw [hrows]
    exact List.mem_append_left _ hblob
  refine ⟨h.withBlobs hblobs, { Grows.refl i w with blobs := hblobs }, ?_⟩
  intro result hresult
  obtain ⟨hcontainer, hname, hrows⟩ := upload_ok (delivered_ok (Prod.ext hresult rfl))
  refine ⟨m.uploadDocument.blob call, ?_, hcontainer, hname, rfl, rfl⟩
  change m.uploadDocument.blob call ∈ (m.uploadBlob w call).2.blobs.rows
  unfold DocumentsModule.uploadBlob
  dsimp only
  rw [hrows]
  exact List.mem_append_right _ List.mem_cons_self

/-- What is stored was stored for a document. -/
theorem PipelineInv.storedChunks_fresh (h : PipelineInv m unbroken w) {id : Uuid}
    (hfresh : ∀ document ∈ w.documents, document.id ≠ id) : w.storedChunks id = [] := by
  unfold PipelineWorld.storedChunks
  rw [List.map_eq_nil_iff, List.filter_eq_nil_iff]
  intro memory hmemory hsource
  obtain ⟨document, hdocument, chunks, -, chunk, -, rfl⟩ := h.memories memory hmemory
  exact hfresh document hdocument (Option.some.inj (of_decide_eq_true hsource))

/-- A key that names no document is the key of no row. -/
theorem PipelineInv.key_ne (h : PipelineInv m unbroken w) {id : Uuid}
    (hfresh : ∀ document ∈ w.documents, document.id ≠ id) : ∀ row ∈ w.outbox, row.key ≠ id.str := by
  intro row hrow hkey
  obtain ⟨document, hdocument, call, hmessage⟩ := h.named row hrow
  have hnamed : row.key = document.id.str := congrArg OutboxMessage.key hmessage
  exact hfresh document hdocument (Uuid.str_injective (hnamed.symm.trans hkey))

/-- A new document, with its event. -/
theorem PipelineInv.insert (h : PipelineInv m unbroken w) {documents : Table Document.id}
    {outbox : Table OutboxRecord.id} {row : OutboxRecord} {outboxId : Int}
    (hfresh : ∀ other ∈ w.documents, other.id ≠ document.id)
    (hdocuments : documents.rows = w.documents.rows ++ [document])
    (hkeys : ∀ key, document.idempotencyKey = some key → ∀ other ∈ w.documents,
      other.idempotencyKey ≠ some key)
    (hrow : row = newRecord outboxId (m.uploadDocument.message call document) call.now)
    (houtbox : outbox.rows = w.outbox.rows ++ [row])
    (hblob : ∃ blob ∈ w.blobs, BlobOf m document blob) (hstatus : document.status = "queued") :
    PipelineInv m unbroken { w with documents := documents, outbox := outbox } := by
  have hdocument : ∀ {other}, other ∈ documents ↔ other ∈ w.documents ∨ other = document := by
    intro other
    rw [Table.mem_def, hdocuments, List.mem_append, List.mem_singleton]
    rfl
  have hevent : ∀ {other}, other ∈ outbox ↔ other ∈ w.outbox ∨ other = row := by
    intro other
    rw [Table.mem_def, houtbox, List.mem_append, List.mem_singleton]
    rfl
  have hkey : row.key = document.id.str := by
    rw [hrow]
    rfl
  have hold := h.key_ne hfresh
  -- the new event is the new document's, and no other
  have hpair : ∀ other ∈ documents, ∀ event ∈ outbox, event.key = other.id.str →
      (other ∈ w.documents ∧ event ∈ w.outbox) ∨ (other = document ∧ event = row) := by
    intro other hother event hmem hnames
    rcases hdocument.mp hother with hother | rfl <;> rcases hevent.mp hmem with hmem | rfl
    · exact .inl ⟨hother, hmem⟩
    · exact absurd (Uuid.str_injective (hnames.symm.trans hkey)) (hfresh other hother)
    · exact absurd hnames (hold event hmem)
    · exact .inr ⟨rfl, rfl⟩
  refine ⟨?_, ?_, ?_, ?_, ?_, ?_, ?_, ?_, ?_, h.exclusive, ?_⟩
  · intro other hother other' hother' key hsome hsome'
    rcases hdocument.mp hother with hother | rfl <;> rcases hdocument.mp hother' with hother' | rfl
    · exact h.keysUnique other hother other' hother' key hsome hsome'
    · exact absurd hsome (hkeys key hsome' other hother)
    · exact absurd hsome' (hkeys key hsome other' hother')
    · rfl
  · intro other hother
    rcases hdocument.mp hother with hother | rfl
    · exact h.blobs other hother
    · exact hblob
  · intro other hother
    rcases hdocument.mp hother with hother | rfl
    · obtain ⟨event, hmem, hnames⟩ := h.announced other hother
      exact ⟨event, hevent.mpr (.inl hmem), hnames⟩
    · exact ⟨row, hevent.mpr (.inr rfl), hkey⟩
  · intro event hmem
    rcases hevent.mp hmem with hmem | rfl
    · obtain ⟨other, hother, call', hmessage⟩ := h.named event hmem
      exact ⟨other, hdocument.mpr (.inl hother), call', hmessage⟩
    · exact ⟨document, hdocument.mpr (.inr rfl), call, by rw [hrow]; rfl⟩
  · intro event hmem event' hmem' hsame
    rcases hevent.mp hmem with hmem | rfl <;> rcases hevent.mp hmem' with hmem' | rfl
    · exact h.once event hmem event' hmem' hsame
    · exact absurd (hsame.trans hkey) (hold event hmem)
    · exact absurd (hsame.symm.trans hkey) (hold event' hmem')
    · rfl
  · intro other hother event hmem hnames
    rcases hpair other hother event hmem hnames with ⟨hother, hmem⟩ | ⟨rfl, rfl⟩
    · exact (h.settled other hother event hmem hnames).congr
        { w with documents := documents, outbox := outbox } (fun _ hblob => hblob)
          (fun _ => rfl) other.status
    · dsimp only
      rw [hstatus, h.noError _ hfresh, hrow]
      exact .queued
  · intro id hnone
    exact h.noError id (fun other hother => hnone other (hdocument.mpr (.inl hother)))
  · intro memory hmemory
    obtain ⟨other, hother, hchunks⟩ := h.memories memory hmemory
    exact ⟨other, hdocument.mpr (.inl hother), hchunks⟩
  · intro event hmem
    rcases hevent.mp hmem with hmem | rfl
    · exact h.sound event hmem
    · rw [hrow]
      exact ⟨nofun, Nat.zero_le _, fun _ hne => absurd rfl hne⟩
  · intro hunbroken other hother event hmem hnames hpending hidle
    rcases hpair other hother event hmem hnames with ⟨hother, hmem⟩ | ⟨rfl, rfl⟩
    · exact h.clean hunbroken other hother event hmem hnames hpending hidle
    · exact h.storedChunks_fresh hfresh

theorem PipelineInv.inserted (h : PipelineInv m unbroken w) (i : ι) {outboxId : Nat} {s : Stores}
    (hblob : ∃ blob ∈ w.blobs, BlobOf m document blob) (hstatus : document.status = "queued")
    (hwritten : RowsWritten m.uploadDocument call document (w.stores outboxId) s) :
    PipelineInv m unbroken { w with documents := s.documents, outbox := s.outbox } ∧
      Grows i w { w with documents := s.documents, outbox := s.outbox } := by
  refine ⟨h.insert (Table.find?_eq_none_iff.mp hwritten.fresh) hwritten.documents hwritten.keys rfl
    hwritten.outbox hblob hstatus,
    { Grows.refl i w with documents := ?_, outbox := ?_, held := ?_ }⟩
  · intro other hother
    refine ⟨other.status, ?_⟩
    change other ∈ s.documents.rows
    rw [hwritten.documents]
    exact List.mem_append_left _ hother
  · intro row hrow
    refine ⟨row, ?_, rfl, rfl⟩
    change row ∈ s.outbox.rows
    rw [hwritten.outbox]
    exact List.mem_append_left _ hrow
  · intro j _ row hrow _
    refine ⟨⟨row, ?_, rfl⟩, fun _ _ => rfl⟩
    change row ∈ s.outbox.rows
    rw [hwritten.outbox]
    exact List.mem_append_left _ hrow

theorem PipelineInv.writeRows (h : PipelineInv m unbroken w) (call : UploadCall) (i : ι)
    (outboxId : Nat)
    (hblob : ∃ blob ∈ w.blobs, BlobOf m document blob) (hstatus : document.status = "queued") :
    PipelineInv m unbroken (m.writeRows w call document outboxId).2 ∧
      Grows i w (m.writeRows w call document outboxId).2 := by
  have hrows := writeRows_spec m.uploadDocument call document (w.stores outboxId)
  unfold DocumentsModule.writeRows
  cases hwrite : m.uploadDocument.writeRows call document (w.stores outboxId) with
  | mk reply s =>
  rw [hwrite] at hrows
  dsimp only
  cases reply with
  | ok _ => exact h.inserted i hblob hstatus hrows
  | error e =>
    rcases hrows with hleft | ⟨-, hwritten⟩
    · rw [hleft.documents, hleft.outbox]
      exact ⟨h, .refl i w⟩
    · exact h.inserted i hblob hstatus hwritten

end

/-! ## Proof outlines -/

/-- Where no run is broken off, a session that has stored chunks ends only after its commit. -/
def endsCommitted (unbroken : Prop) (i : ι) (op : PipelineOp) (w : PipelineWorld ι) : Prop :=
  match op with
  | .consumer .close => unbroken → w.uncommitted i = 0
  | _ => True

section

variable [DecidableEq ι] (m : DocumentsModule) (unbroken : Prop)

def pipelineRely : Rely ι PyError PipelineOp PipelineOp.Reply Choice (PipelineWorld ι) where
  exec := m.exec
  cond := endsCommitted unbroken
  inv := PipelineInv m unbroken
  guar := Grows

/-- The same for the calls of a publisher. -/
def publisherRely : Rely ι PyError OutboxOp OutboxOp.Reply Choice (PipelineWorld ι) where
  exec i op := m.exec i (.publisher op)
  cond i op := endsCommitted unbroken i (.publisher op)
  inv := PipelineInv m unbroken
  guar := Grows

/-- The same for the calls of a consumer. -/
def consumerRely : Rely ι PyError IngestionOp IngestionOp.Reply Choice (PipelineWorld ι) where
  exec i op := m.exec i (.consumer op)
  cond i op := endsCommitted unbroken i (.consumer op)
  inv := PipelineInv m unbroken
  guar := Grows

variable {m unbroken} {i : ι} {α : Type} {w w' : PipelineWorld ι}

omit [DecidableEq ι] in
/-- What holds of a call that arrives holds however it is delivered. -/
theorem delivered_spec (delivery : Delivery) {called : Except PyError α × PipelineWorld ι}
    {r : Except PyError α} {R : α → PipelineWorld ι → Prop} (hinv : PipelineInv m unbroken w)
    (hcalled : PipelineInv m unbroken called.2 ∧ Grows i w called.2 ∧ okOnly R called.1 called.2)
    (h : some (delivered delivery w called) = some (r, w')) :
    PipelineInv m unbroken w' ∧ Grows i w w' ∧ okOnly R r w' := by
  cases delivery with
  | arrives =>
    obtain rfl : called = (r, w') := Option.some.inj h
    exact hcalled
  | lost e =>
    cases h
    exact ⟨hinv, .refl i _, trivial⟩
  | late e =>
    cases h
    exact ⟨hcalled.1, hcalled.2.1, trivial⟩

/-! ## An upload among others -/

theorem upload_outline (i : ι) (call : UploadCall) :
    Outline (pipelineRely m unbroken) i (fun _ => True) (m.upload call) (fun _ _ => True) := by
  have hblob : Outline (pipelineRely m unbroken) i (fun _ => True)
      (Prog.perform (PipelineOp.uploadBlob call)) (okOnly fun result w =>
        ∃ blob ∈ w.blobs, BlobOf m (m.uploadDocument.document call result) blob) := by
    refine Outline.perform ?_ ?_
    · intro r w w' j hj hinv hinv' hguar hr
      cases r with
      | error e => trivial
      | ok result =>
        obtain ⟨blob, hmem, hof⟩ := hr
        exact ⟨blob, hguar.blobs blob hmem, hof⟩
    · intro w choice r w' hinv _ _ hexec
      obtain ⟨hinv', hgrows, hof⟩ := hinv.uploadBlob i call
      obtain ⟨hresult, rfl⟩ := Prod.ext_iff.mp (Option.some.inj hexec)
      refine ⟨hinv', hgrows, ?_⟩
      cases r with
      | error e => trivial
      | ok result => exact hof result hresult
  refine hblob.attemptOk.bind ?_ (fun _ _ _ _ => trivial)
  intro result
  cases result with
  | error e =>
    dsimp only
    split <;> exact Outline.raise (fun _ _ _ => trivial)
  | ok result =>
    dsimp only
    have hrows : Outline (pipelineRely m unbroken) i
        (fun w => ∃ blob ∈ w.blobs, BlobOf m (m.uploadDocument.document call result) blob)
        (Prog.perform (PipelineOp.writeRows call (m.uploadDocument.document call result)))
        (okOnly fun _ _ => True) := by
      refine Outline.perform (fun r => ?_) ?_
      · cases r <;> exact stable_const True
      · intro w choice r w' hinv hof _ hexec
        obtain ⟨hinv', hgrows⟩ := hinv.writeRows call i choice.outboxId hof rfl
        obtain ⟨-, rfl⟩ := Prod.ext_iff.mp (Option.some.inj hexec)
        refine ⟨hinv', hgrows, ?_⟩
        cases r <;> trivial
    exact hrows.bind (fun _ => Outline.pure (fun _ _ _ => trivial)) (fun _ _ _ _ => trivial)

theorem uploads_outline (i : ι) (calls : List UploadCall) :
    Outline (pipelineRely m unbroken) i (fun _ => True) (m.program (.uploader calls))
      (fun _ _ => True) := by
  refine Outline.forEach ?_ (fun _ _ _ => trivial)
  intro call _
  exact (upload_outline i call).attemptOk.bind (fun _ => Outline.pure (fun _ _ _ => trivial))
    (fun _ _ _ _ => trivial)

/-! ## Locks -/

/-- What a process may do to the locks: give back its own, and take what no other holds. -/
structure LocksMove (i : ι) (locks locks' : List (ι × Int)) : Prop where
  others : ∀ j, j ≠ i → ∀ id, (j, id) ∈ locks' ↔ (j, id) ∈ locks
  own : ∀ id, (i, id) ∈ locks' → (i, id) ∈ locks ∨ ∀ j, (j, id) ∈ locks → j = i

omit [DecidableEq ι] in
theorem LocksMove.refl (i : ι) (locks : List (ι × Int)) : LocksMove i locks locks :=
  ⟨fun _ _ _ => Iff.rfl, fun _ hown => .inl hown⟩

omit [DecidableEq ι] in
theorem LocksMove.exclusive {locks locks' : List (ι × Int)} (h : LocksMove i locks locks')
    (hexclusive : ∀ j k id, (j, id) ∈ locks → (k, id) ∈ locks → j = k) :
    ∀ j k id, (j, id) ∈ locks' → (k, id) ∈ locks' → j = k := by
  have hown : ∀ j id, (i, id) ∈ locks' → j ≠ i → (j, id) ∉ locks' := by
    intro j id hi hj hother
    have hbefore := (h.others j hj id).mp hother
    rcases h.own id hi with hi | hfree
    · exact hj (hexclusive j i id hbefore hi)
    · exact hj (hfree j hbefore)
  intro j k id hj hk
  by_cases hji : j = i
  · subst hji
    by_contra hne
    exact hown k id hj (fun heq => hne heq.symm) hk
  · by_cases hki : k = i
    · subst hki
      exact absurd hj (hown j id hk hji)
    · exact hexclusive j k id ((h.others j hji id).mp hj) ((h.others k hki id).mp hk)

theorem locksMove_release (i : ι) (o : OutboxWorld ι) : LocksMove i o.locks (o.release i) := by
  refine ⟨?_, ?_⟩
  · intro j hj id
    unfold OutboxWorld.release
    rw [List.mem_filter]
    simp [hj]
  · intro id hown
    exact .inl (List.mem_of_mem_filter hown)

theorem not_mem_release (i : ι) (o : OutboxWorld ι) (id : Int) : (i, id) ∉ o.release i := by
  unfold OutboxWorld.release
  rw [List.mem_filter]
  simp

theorem free_of_lockedByOther {o : OutboxWorld ι} {row : OutboxRecord}
    (h : o.lockedByOther i row = false) : ∀ j, (j, row.id) ∈ o.locks → j = i := by
  intro j hj
  unfold OutboxWorld.lockedByOther at h
  have hnone := List.any_eq_false.mp h (j, row.id) hj
  simpa using hnone

omit [DecidableEq ι] in
theorem locksMove_append {o : OutboxWorld ι} {ids : List Int}
    (h : ∀ id ∈ ids, ∀ j, (j, id) ∈ o.locks → j = i) :
    LocksMove i o.locks (o.locks ++ ids.map (fun id => (i, id))) := by
  refine ⟨?_, ?_⟩
  · intro j hj id
    rw [List.mem_append]
    constructor
    · rintro (hbefore | hnew)
      · exact hbefore
      · obtain ⟨_, _, heq⟩ := List.mem_map.mp hnew
        cases heq
        exact absurd rfl hj
    · exact .inl
  · intro id hown
    rcases List.mem_append.mp hown with hbefore | hnew
    · exact .inl hbefore
    · obtain ⟨id', hid', heq⟩ := List.mem_map.mp hnew
      cases heq
      exact .inr (h id hid')

end

end HotAirBalloon.Pipeline
