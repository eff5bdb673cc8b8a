import HotAirBalloon.Documents.ChunksOnce
import HotAirBalloon.Library.SoloRun

/-!
# Batches with failing documents

Runs of the consumer over a fixed set of events, where each document either can be processed or
cannot. Only `TextExtractionError` is handled for a single document: any other exception ends the
run before the commit, and as the batch is always taken from the lowest ids, every later run ends in
the same way. So the documents that can be processed are indexed exactly when none of them is in the
batch of the first document that raises, or behind it.
-/

namespace HotAirBalloon.Documents

open Python Library Evidence Memory

namespace DocumentIngestionConsumer

variable (consumer : DocumentIngestionConsumer)

/-- The text of a document. -/
def textOf (document : DocumentRecord) : Except PyError String := do
  let payload ← consumer.download document.blobContainer document.blobName
  consumer.textExtractor.extract document.contentType payload

/-- Processing a document raises an exception that the consumer does not handle. -/
def documentRaises (document : DocumentRecord) : Bool :=
  match consumer.textOf document with
  | .ok text => !(consumer.chunker.chunk text).isOk
  | .error e => e.kind ≠ "TextExtractionError"

/-- Processing an event raises: its key is no UUID, or its document raises. -/
def raises (documents : Table DocumentRecord.id) (event : OutboxRecord) : Bool :=
  match consumer.documentOf event with
  | none => true
  | some documentId => (documents.find? documentId).any consumer.documentRaises

/-- Processing an event succeeds: it names a document, whose chunks can be made. -/
structure Succeeds (documents : Table DocumentRecord.id) (event : OutboxRecord)
    (document : DocumentRecord) (chunks : List String) : Prop where
  names : consumer.documentOf event = some document.id
  found : documents.find? document.id = some document
  chunks : consumer.chunksOf document = .ok chunks

/-- The event is marked, and its document is indexed with all its chunks. -/
structure Indexed (event : OutboxRecord) (document : DocumentRecord) (chunks : List String)
    (w : IngestionWorld) : Prop where
  marked : ∃ row ∈ w.outbox, row.id = event.id ∧ row.ingestedAt ≠ none
  status : ∃ row ∈ w.documents, row.id = document.id ∧ row.status = "indexed"
  stored : chunks.Sublist (w.storedChunks document.id)

/-- The world after a run that is not disturbed. -/
def afterRun (clock : Int → DateTime) (w : IngestionWorld) : IngestionWorld :=
  (((consumer.ingestOnce clock).run consumer.exec () .arrives w).map (·.2)).getD w

/-- The world after some runs; `clocks` are their readings. -/
def afterRuns (clocks : Nat → Int → DateTime) (w : IngestionWorld) : Nat → IngestionWorld
  | 0 => w
  | n + 1 => consumer.afterRun (clocks n) (afterRuns clocks w n)

def pending (w : IngestionWorld) : List OutboxRecord := pendingEvents consumer.topicName w.outbox

/-- Failing documents do not block the others. -/
structure NotBlocked (clocks : Nat → Int → DateTime) (w : IngestionWorld) : Prop where
  /-- After finitely many runs, what can be processed is indexed. -/
  progress : ∃ n, ∀ event ∈ consumer.pending w, ∀ document chunks,
    consumer.Succeeds w.documents event document chunks →
    Indexed event document chunks (consumer.afterRuns clocks w n)
  /-- A run keeps the success of a document although a later one of its batch fails. -/
  kept : ∀ n before event after,
    (consumer.pending (consumer.afterRuns clocks w n)).take consumer.batchSize =
      before ++ event :: after →
    (∀ earlier ∈ before, consumer.raises w.documents earlier = false) →
    ∀ document chunks, consumer.Succeeds w.documents event document chunks →
    Indexed event document chunks (consumer.afterRuns clocks w (n + 1))

/-- No document that can be processed is in the batch of one that raises, or behind it. -/
def AheadOfFailures (w : IngestionWorld) : Prop :=
  ∀ i j failing event, (consumer.pending w)[i]? = some failing →
    (consumer.pending w)[j]? = some event → consumer.raises w.documents failing = true →
    (∃ document chunks, consumer.Succeeds w.documents event document chunks) →
    j / consumer.batchSize < i / consumer.batchSize

/-! ## What a round does -/

/-- What the round of a loaded document assigns, when it does not raise. -/
def documentAssignments (now : DateTime) (event : OutboxRecord) (document : DocumentRecord) :
    List Assignment :=
  .status document.id "ingesting" :: match consumer.textOf document with
  | .ok _ => [.status document.id "indexed", .ingestionError document.id none,
      .ingestedAt event.id now]
  | .error e => [.status document.id "failed",
      .ingestionError document.id (some (String.ofList (e.message.toList.take 4000))),
      .ingestedAt event.id now]

def assignmentsOf (documents : Table DocumentRecord.id) (now : DateTime) (event : OutboxRecord) :
    List Assignment :=
  match (consumer.documentOf event).bind documents.find? with
  | none => [.ingestedAt event.id now]
  | some document => consumer.documentAssignments now event document

/-- What the round of an event stores. -/
def memoriesOf (documents : Table DocumentRecord.id) (event : OutboxRecord) :
    List MemoryRecordWrite :=
  match (consumer.documentOf event).bind documents.find? with
  | none => []
  | some document => ((consumer.chunksOf document).toOption.getD []).map (chunkMemory document)

end DocumentIngestionConsumer

/-- The world after some assignments and records. -/
def IngestionWorld.extend (w : IngestionWorld) (assigned : List Assignment)
    (memories : List MemoryRecordWrite) : IngestionWorld :=
  { w with
    assigned := w.assigned ++ assigned
    memories := w.memories ++ memories
    uncommitted := w.uncommitted + memories.length }

theorem IngestionWorld.extend_nil (w : IngestionWorld) : w.extend [] [] = w := by
  unfold extend
  rw [List.append_nil, List.append_nil]
  rfl

theorem IngestionWorld.extend_extend (w : IngestionWorld) (assigned assigned' : List Assignment)
    (memories memories' : List MemoryRecordWrite) :
    (w.extend assigned memories).extend assigned' memories' =
      w.extend (assigned ++ assigned') (memories ++ memories') := by
  unfold extend
  simp only [List.append_assoc, List.length_append, Nat.add_assoc]

namespace DocumentIngestionConsumer

variable {consumer : DocumentIngestionConsumer}

abbrev FinishesIngestion {α : Type} (consumer : DocumentIngestionConsumer) (p : IngestionAction α)
    (w : IngestionWorld) (Q : Except PyError α → IngestionWorld → Prop) : Prop :=
  Finishes consumer.exec () .arrives p w Q

theorem finishes_perform (op : IngestionOp) (w : IngestionWorld) :
    FinishesIngestion consumer (Prog.perform op) w
      (fun r w' => r = (consumer.carryOut op w).1 ∧ w' = (consumer.carryOut op w).2) :=
  Finishes.perform rfl ⟨rfl, rfl⟩

theorem finishes_assign (assignment : Assignment) (w : IngestionWorld) :
    FinishesIngestion consumer (assign assignment) w
      (fun r w' => r = .ok () ∧ w' = w.extend [assignment] []) := by
  refine (finishes_perform _ w).post ?_
  rintro r w' ⟨rfl, rfl⟩
  refine ⟨rfl, ?_⟩
  unfold IngestionWorld.extend
  rw [List.append_nil]
  rfl

theorem textOf_documentAfter (assigned : List Assignment) (document : DocumentRecord) :
    consumer.textOf (documentAfter assigned document) = consumer.textOf document := by
  obtain ⟨status, error, heq⟩ := documentAfter_eq assigned document
  rw [heq]
  rfl

theorem chunkMemory_documentAfter (assigned : List Assignment) (document : DocumentRecord) :
    chunkMemory (documentAfter assigned document) = chunkMemory document := by
  obtain ⟨status, error, heq⟩ := documentAfter_eq assigned document
  rw [heq]
  rfl

theorem chunksOf_eq (document : DocumentRecord) :
    consumer.chunksOf document = consumer.textOf document >>= consumer.chunker.chunk := by
  unfold chunksOf textOf
  cases consumer.download document.blobContainer document.blobName <;> rfl

theorem extractText_finishes (document : DocumentRecord) (w : IngestionWorld) :
    FinishesIngestion consumer (extractText document) w
      (fun r w' => r = consumer.textOf document ∧ w' = w) := by
  unfold extractText textOf
  refine (finishes_perform _ w).bind ?_ ?_
  · rintro payload w₁ ⟨hpayload, rfl⟩
    refine (finishes_perform _ _).post ?_
    rintro r w₂ ⟨rfl, rfl⟩
    change Except.ok payload =
      consumer.download document.blobContainer document.blobName at hpayload
    rw [← hpayload]
    exact ⟨rfl, rfl⟩
  · rintro e w₁ ⟨herror, rfl⟩
    change Except.error e = consumer.download document.blobContainer document.blobName at herror
    rw [← herror]
    exact ⟨rfl, rfl⟩

theorem recordAll_finishes (document : DocumentRecord) (chunks : List String) (w : IngestionWorld) :
    FinishesIngestion consumer
      (Prog.forEach chunks fun chunk =>
        Prog.perform (IngestionOp.record (chunkMemory document chunk))) w
      (fun r w' => r = .ok () ∧ w' = w.extend [] (chunks.map (chunkMemory document))) := by
  refine Finishes.forEach (fun done w' => w' = w.extend [] (done.map (chunkMemory document))) []
    w.extend_nil.symm ?_ (fun w' h => ⟨rfl, h⟩)
  rintro done chunk w₁ rfl _
  refine (finishes_perform _ _).post ?_
  rintro r w₂ ⟨rfl, rfl⟩
  have hone : ∀ w', (consumer.carryOut (.record (chunkMemory document chunk)) w').2 =
      w'.extend [] [chunkMemory document chunk] := by
    intro w'
    unfold IngestionWorld.extend
    rw [List.append_nil]
    rfl
  refine ⟨rfl, ?_⟩
  rw [hone, IngestionWorld.extend_extend, List.map_append]
  rfl

/-- Assignments one after another. -/
theorem assignAll_finishes (first second third : Assignment) (w : IngestionWorld) :
    FinishesIngestion consumer (do assign first; assign second; assign third) w
      (fun r w' => r = .ok () ∧ w' = w.extend [first, second, third] []) := by
  refine (finishes_assign first w).bind ?_ (fun e w' h => by cases h.1)
  rintro _ w₁ ⟨-, rfl⟩
  refine (finishes_assign second _).bind ?_ (fun e w' h => by cases h.1)
  rintro _ w₂ ⟨-, rfl⟩
  refine (finishes_assign third _).post ?_
  rintro r w₃ ⟨rfl, rfl⟩
  rw [IngestionWorld.extend_extend, IngestionWorld.extend_extend]
  exact ⟨rfl, rfl⟩

theorem indexDocument_finishes (now : DateTime) (event : OutboxRecord) (document : DocumentRecord)
    {text : String} {chunks : List String} (w : IngestionWorld)
    (hchunks : consumer.chunker.chunk text = .ok chunks) :
    FinishesIngestion consumer (indexDocument now event document text) w (fun r w' => r = .ok () ∧
      w' = w.extend [.status document.id "indexed", .ingestionError document.id none,
        .ingestedAt event.id now] (chunks.map (chunkMemory document))) := by
  unfold indexDocument
  refine (finishes_perform _ w).bind ?_ ?_
  · rintro found w₁ ⟨hfound, rfl⟩
    change Except.ok found = consumer.chunker.chunk text at hfound
    rw [hchunks] at hfound
    cases hfound
    refine (recordAll_finishes document chunks _).bind ?_ (fun e w' h => by cases h.1)
    rintro _ w₂ ⟨-, rfl⟩
    refine (assignAll_finishes _ _ _ _).post ?_
    rintro r w₃ ⟨rfl, rfl⟩
    rw [IngestionWorld.extend_extend, List.append_nil]
    exact ⟨rfl, rfl⟩
  · rintro e w₁ ⟨herror, -⟩
    change Except.error e = consumer.chunker.chunk text at herror
    rw [hchunks] at herror
    cases herror

theorem indexDocument_raises (now : DateTime) (event : OutboxRecord) (document : DocumentRecord)
    {text : String} {e : PyError} (w : IngestionWorld)
    (hchunks : consumer.chunker.chunk text = .error e) :
    FinishesIngestion consumer (indexDocument now event document text) w
      (fun r w' => r = .error e ∧ w' = w) := by
  unfold indexDocument
  refine (finishes_perform _ w).bind ?_ ?_
  · rintro found w₁ ⟨hfound, -⟩
    change Except.ok found = consumer.chunker.chunk text at hfound
    rw [hchunks] at hfound
    cases hfound
  · rintro e' w₁ ⟨herror, rfl⟩
    change Except.error e' = consumer.chunker.chunk text at herror
    rw [hchunks] at herror
    cases herror
    exact ⟨rfl, rfl⟩

theorem failDocument_finishes (now : DateTime) (event : OutboxRecord) (document : DocumentRecord)
    (e : PyError) (w : IngestionWorld) :
    FinishesIngestion consumer (failDocument now event document e) w (fun r w' => r = .ok () ∧
      w' = w.extend [.status document.id "failed",
        .ingestionError document.id (some (String.ofList (e.message.toList.take 4000))),
        .ingestedAt event.id now] []) :=
  assignAll_finishes _ _ _ w

/-- The text is read after the status was assigned. -/
theorem ingestDocument_starts {Q : Except PyError Nat → IngestionWorld → Prop} (now : DateTime)
    (processed : Nat) (event : OutboxRecord) (document : DocumentRecord) (w : IngestionWorld)
    (h : FinishesIngestion consumer (match consumer.textOf document with
      | .ok text => do
        indexDocument now event document text
        return processed + 1
      | .error e =>
        if e.kind = "TextExtractionError" then do
          failDocument now event document e
          return processed + 1
        else Prog.raise e) (w.extend [.status document.id "ingesting"] []) Q) :
    FinishesIngestion consumer (ingestDocument now processed event document) w Q := by
  unfold ingestDocument
  refine (finishes_assign _ w).bind ?_ (fun e w' h => by cases h.1)
  rintro _ w₁ ⟨-, rfl⟩
  have hattempt : FinishesIngestion consumer (extractText document).attempt
      (w.extend [.status document.id "ingesting"] [])
      (fun r w' => r = .ok (consumer.textOf document) ∧
        w' = w.extend [.status document.id "ingesting"] []) := by
    refine (extractText_finishes document _).attempt ?_
    rintro r w' ⟨rfl, rfl⟩
    exact ⟨rfl, rfl⟩
  refine hattempt.bind ?_ (fun e w' h => by cases h.1)
  rintro result w₂ ⟨heq, rfl⟩
  cases heq
  exact h

/-- A round with a document that does not raise. -/
theorem ingestDocument_finishes (now : DateTime) (processed : Nat) (event : OutboxRecord)
    (document : DocumentRecord) (w : IngestionWorld)
    (h : consumer.documentRaises document = false) :
    FinishesIngestion consumer (ingestDocument now processed event document) w
      (fun r w' =>
        (∃ n, r = .ok n) ∧ w' = w.extend (consumer.documentAssignments now event document)
        (((consumer.chunksOf document).toOption.getD []).map (chunkMemory document))) := by
  apply ingestDocument_starts
  unfold documentRaises at h
  unfold documentAssignments
  rw [chunksOf_eq]
  cases htext : consumer.textOf document with
  | ok text =>
    rw [htext] at h
    cases hchunks : consumer.chunker.chunk text with
    | error e =>
      dsimp only at h
      rw [hchunks] at h
      cases h
    | ok chunks =>
      refine (indexDocument_finishes now event document _ hchunks).bind ?_
        (fun e w' h => by cases h.1)
      rintro _ w₁ ⟨-, rfl⟩
      refine Finishes.pure ⟨⟨processed + 1, rfl⟩, ?_⟩
      rw [IngestionWorld.extend_extend]
      change _ = w.extend _ (((consumer.chunker.chunk text).toOption.getD []).map _)
      rw [hchunks]
      rfl
  | error e =>
    rw [htext] at h
    have hhandled : e.kind = "TextExtractionError" := by simpa using h
    dsimp only
    rw [if_pos hhandled]
    refine (failDocument_finishes now event document e _).bind ?_ (fun e w' h => by cases h.1)
    rintro _ w₁ ⟨-, rfl⟩
    refine Finishes.pure ⟨⟨processed + 1, rfl⟩, ?_⟩
    rw [IngestionWorld.extend_extend]
    rfl

/-- A round with a document that raises. -/
theorem ingestDocument_raises (now : DateTime) (processed : Nat) (event : OutboxRecord)
    (document : DocumentRecord) (w : IngestionWorld) (h : consumer.documentRaises document = true) :
    FinishesIngestion consumer (ingestDocument now processed event document) w
      (fun r w' => (∃ e, r = .error e) ∧ ∃ assigned memories, w' = w.extend assigned memories) := by
  apply ingestDocument_starts
  unfold documentRaises at h
  cases htext : consumer.textOf document with
  | ok text =>
    rw [htext] at h
    cases hchunks : consumer.chunker.chunk text with
    | ok chunks =>
      dsimp only at h
      rw [hchunks] at h
      cases h
    | error e =>
      refine (indexDocument_raises now event document _ hchunks).bind ?_ ?_
      · rintro _ w₁ ⟨heq, -⟩
        cases heq
      · rintro e' w₁ ⟨heq, rfl⟩
        exact ⟨⟨e', rfl⟩, _, _, rfl⟩
  | error e =>
    rw [htext] at h
    have hhandled : e.kind ≠ "TextExtractionError" := by simpa using h
    dsimp only
    rw [if_neg hhandled]
    exact Finishes.raise ⟨⟨e, rfl⟩, _, _, rfl⟩

/-- The document of an event is loaded. -/
theorem ingestEvent_starts {Q : Except PyError Nat → IngestionWorld → Prop} (now : DateTime)
    (processed : Nat) (event : OutboxRecord) (w : IngestionWorld)
    (hraises : consumer.documentOf event = none → ∀ e, Q (.error e) w)
    (hmissing : ∀ documentId, consumer.documentOf event = some documentId →
      w.documents.find? documentId = none → Q (.ok processed)
        (w.extend [.ingestedAt event.id now] []))
    (hfound : ∀ documentId document, consumer.documentOf event = some documentId →
      w.documents.find? documentId = some document → FinishesIngestion consumer
        (ingestDocument now processed event (documentAfter w.assigned document)) w Q) :
    FinishesIngestion consumer (consumer.ingestEvent now processed event) w Q := by
  unfold ingestEvent
  unfold documentOf at hraises hmissing hfound
  cases hid : Uuid.parse consumer.py.toUnicodeData event.key with
  | none =>
    have hraise : FinishesIngestion consumer (Prog.ofExcept (uuidOf consumer.py event.key)) w
        (fun r w' => (∃ e, r = .error e) ∧ w = w') := by
      unfold uuidOf
      rw [hid]
      exact Finishes.ofExcept ⟨⟨_, rfl⟩, rfl⟩
    refine hraise.bind ?_ ?_
    · rintro _ _ ⟨⟨e, heq⟩, -⟩
      cases heq
    · rintro e _ ⟨-, rfl⟩
      exact hraises hid e
  | some documentId =>
    have hok : FinishesIngestion consumer (Prog.ofExcept (uuidOf consumer.py event.key)) w
        (fun r w' => r = .ok documentId ∧ w = w') := by
      unfold uuidOf
      rw [hid]
      exact Finishes.ofExcept ⟨rfl, rfl⟩
    refine hok.bind ?_ (fun e w' h => by cases h.1)
    rintro _ _ ⟨heq, rfl⟩
    cases heq
    refine (finishes_perform (.getDocument documentId) w).bind ?_ (fun e w' h => by cases h.1)
    rintro found w ⟨heq, rfl⟩
    change Except.ok found =
      .ok ((w.documents.find? documentId).map (documentAfter w.assigned)) at heq
    cases heq
    cases hdocument : w.documents.find? documentId with
    | none =>
      refine (finishes_assign _ _).bind ?_ (fun e w' h => by cases h.1)
      rintro _ w₂ ⟨-, rfl⟩
      exact Finishes.pure (hmissing documentId hid hdocument)
    | some document => exact hfound documentId document hid hdocument

theorem documentAssignments_documentAfter (now : DateTime) (event : OutboxRecord)
    (assigned : List Assignment) (document : DocumentRecord) :
    consumer.documentAssignments now event (documentAfter assigned document) =
      consumer.documentAssignments now event document := by
  unfold documentAssignments
  rw [textOf_documentAfter, documentAfter_id]

theorem documentRaises_documentAfter (assigned : List Assignment) (document : DocumentRecord) :
    consumer.documentRaises (documentAfter assigned document) =
      consumer.documentRaises document := by
  unfold documentRaises
  rw [textOf_documentAfter]

/-- A round that does not raise. -/
theorem ingestEvent_finishes (now : DateTime) (processed : Nat) (event : OutboxRecord)
    (w : IngestionWorld) (h : consumer.raises w.documents event = false) :
    FinishesIngestion consumer (consumer.ingestEvent now processed event) w
      (fun r w' => (∃ n, r = .ok n) ∧ w' = w.extend (consumer.assignmentsOf w.documents now event)
        (consumer.memoriesOf w.documents event)) := by
  unfold raises at h
  unfold assignmentsOf memoriesOf
  apply ingestEvent_starts
  · intro hid e
    rw [hid] at h
    cases h
  · intro documentId hid hmissing
    rw [hid, Option.bind_some, hmissing]
    exact ⟨⟨processed, rfl⟩, rfl⟩
  · intro documentId document hid hdocument
    rw [hid] at h
    dsimp only at h
    rw [hdocument, Option.any_some, ← documentRaises_documentAfter w.assigned] at h
    rw [hid, Option.bind_some, hdocument]
    refine (ingestDocument_finishes now processed event _ w h).post ?_
    rintro r w' ⟨hr, rfl⟩
    rw [documentAssignments_documentAfter, chunksOf_documentAfter, chunkMemory_documentAfter]
    exact ⟨hr, rfl⟩

/-- A round that raises. -/
theorem ingestEvent_raises (now : DateTime) (processed : Nat) (event : OutboxRecord)
    (w : IngestionWorld) (h : consumer.raises w.documents event = true) :
    FinishesIngestion consumer (consumer.ingestEvent now processed event) w
      (fun r w' => (∃ e, r = .error e) ∧ ∃ assigned memories, w' = w.extend assigned memories) := by
  unfold raises at h
  apply ingestEvent_starts
  · intro hid e
    exact ⟨⟨e, rfl⟩, [], [], w.extend_nil.symm⟩
  · intro documentId hid hmissing
    rw [hid] at h
    dsimp only at h
    rw [hmissing] at h
    cases h
  · intro documentId document hid hdocument
    rw [hid] at h
    dsimp only at h
    rw [hdocument, Option.any_some, ← documentRaises_documentAfter w.assigned] at h
    exact ingestDocument_raises now processed event _ w h

/-! ## What a run does -/

/-- A batch without a failure: every round assigns and stores its part. -/
theorem loop_finishes (clock : Int → DateTime) (events : List OutboxRecord) (processed : Nat)
    (w : IngestionWorld) (h : ∀ event ∈ events, consumer.raises w.documents event = false) :
    FinishesIngestion consumer (Prog.foldEach events processed fun processed event =>
        consumer.ingestEvent (clock event.id) processed event) w
      (fun r w' => (∃ n, r = .ok n) ∧ w' = w.extend
        (events.flatMap fun event => consumer.assignmentsOf w.documents (clock event.id) event)
        (events.flatMap (consumer.memoriesOf w.documents))) := by
  induction events generalizing processed w with
  | nil => exact Finishes.pure ⟨⟨processed, rfl⟩, w.extend_nil.symm⟩
  | cons event rest ih =>
    have hfirst :=
      ingestEvent_finishes (clock event.id) processed event w (h event List.mem_cons_self)
    refine hfirst.bind ?_ ?_
    · rintro processed' w₁ ⟨-, hw₁⟩
      have hdocuments : w₁.documents = w.documents := by rw [hw₁]; rfl
      have hrest : ∀ other ∈ rest, consumer.raises w₁.documents other = false := by
        rw [hdocuments]
        exact fun other hother => h other (List.mem_cons_of_mem event hother)
      refine (ih processed' w₁ hrest).post ?_
      rintro r w₂ ⟨hr, rfl⟩
      refine ⟨hr, ?_⟩
      rw [hdocuments, hw₁, IngestionWorld.extend_extend, List.flatMap_cons, List.flatMap_cons]
    · rintro e w₁ ⟨⟨n, heq⟩, -⟩
      cases heq

/-- A batch with a failure raises. -/
theorem loop_raises (clock : Int → DateTime) (events : List OutboxRecord) (processed : Nat)
    (w : IngestionWorld) (h : ∃ event ∈ events, consumer.raises w.documents event = true) :
    FinishesIngestion consumer (Prog.foldEach events processed fun processed event =>
        consumer.ingestEvent (clock event.id) processed event) w
      (fun r w' => (∃ e, r = .error e) ∧ ∃ assigned memories, w' = w.extend assigned memories) := by
  induction events generalizing processed w with
  | nil =>
    obtain ⟨event, hevent, -⟩ := h
    cases hevent
  | cons event rest ih =>
    cases hraises : consumer.raises w.documents event with
    | true =>
      refine (ingestEvent_raises (clock event.id) processed event w hraises).bind ?_
        (fun _ _ h => h)
      rintro processed' w₁ ⟨⟨e, heq⟩, -⟩
      cases heq
    | false =>
      have hrest : ∃ other ∈ rest, consumer.raises w.documents other = true := by
        obtain ⟨failing, hfailing, hfails⟩ := h
        rcases List.mem_cons.mp hfailing with rfl | hmem
        · rw [hraises] at hfails
          cases hfails
        · exact ⟨failing, hmem, hfails⟩
      refine (ingestEvent_finishes (clock event.id) processed event w hraises).bind ?_ ?_
      · rintro processed' w₁ ⟨-, hw₁⟩
        have hdocuments : w₁.documents = w.documents := by rw [hw₁]; rfl
        rw [← hdocuments] at hrest
        refine (ih processed' w₁ hrest).post ?_
        rintro r w₂ ⟨hr, assigned, memories, rfl⟩
        rw [hw₁]
        exact ⟨hr, _, _, IngestionWorld.extend_extend ..⟩
      · rintro e w₁ ⟨⟨n, heq⟩, -⟩
        cases heq

/-- The events of the next run. -/
def batch (consumer : DocumentIngestionConsumer) (w : IngestionWorld) : List OutboxRecord :=
  (consumer.pending w).take consumer.batchSize

/-- What a run assigns when its batch has no failure. -/
def batchAssignments (consumer : DocumentIngestionConsumer) (clock : Int → DateTime)
    (w : IngestionWorld) : List Assignment :=
  (consumer.batch w).flatMap fun event => consumer.assignmentsOf w.documents (clock event.id) event

/-- The session is closed after the run of its body. -/
theorem ingestOnce_finishes {Q : IngestionWorld → Prop} {clock : Int → DateTime}
    {w : IngestionWorld}
    (h : FinishesIngestion consumer (consumer.ingestBatch clock) w (fun _ => Q)) :
    ∃ w', Q w' ∧ consumer.afterRun clock w = { w' with assigned := [], uncommitted := 0 } := by
  have hrun : FinishesIngestion consumer (consumer.ingestOnce clock) w
      (fun _ w'' => ∃ w', Q w' ∧ w'' = { w' with assigned := [], uncommitted := 0 }) := by
    have hattempt : FinishesIngestion consumer (consumer.ingestBatch clock).attempt w
        (fun r w' => (∃ result, r = .ok result) ∧ Q w') :=
      h.attempt (fun r w' hQ => ⟨⟨r, rfl⟩, hQ⟩)
    refine hattempt.bind ?_ ?_
    · rintro result w₁ ⟨-, hQ⟩
      refine (finishes_perform .close w₁).bind ?_ (fun e w' h => by cases h.1)
      rintro _ w₂ ⟨-, rfl⟩
      exact Finishes.ofExcept ⟨w₁, hQ, rfl⟩
    · rintro e w₁ ⟨⟨result, heq⟩, -⟩
      cases heq
  obtain ⟨r, w'', hrun, w', hQ, rfl⟩ := hrun
  refine ⟨w', hQ, ?_⟩
  unfold afterRun
  rw [hrun]
  rfl

/-- A run whose batch has no failure is committed. -/
theorem afterRun_of_forall (clock : Int → DateTime) (w : IngestionWorld) (hclosed : w.assigned = [])
    (h : ∀ event ∈ consumer.batch w, consumer.raises w.documents event = false) :
    consumer.afterRun clock w = {
      outbox := w.outbox.mapRows (eventAfter (consumer.batchAssignments clock w)) (eventAfter_id _)
      documents := w.documents.mapRows (documentAfter (consumer.batchAssignments clock w))
        (documentAfter_id _)
      memories := w.memories ++ (consumer.batch w).flatMap (consumer.memoriesOf w.documents)
      assigned := []
      uncommitted := 0 } := by
  have hbatch : FinishesIngestion consumer (consumer.ingestBatch clock) w (fun _ w' =>
      w' = (consumer.carryOut .commit (w.extend (consumer.batchAssignments clock w)
        ((consumer.batch w).flatMap (consumer.memoriesOf w.documents)))).2) := by
    unfold ingestBatch
    refine (finishes_perform _ w).bind ?_ (fun e w' h => by cases h.1)
    rintro events w ⟨heq, rfl⟩
    cases heq
    refine (loop_finishes clock (consumer.batch w) 0 w h).bind ?_ ?_
    · rintro processed w₁ ⟨-, rfl⟩
      refine (finishes_perform .commit _).bind ?_ (fun e w' h => by cases h.1)
      rintro _ w₂ ⟨-, rfl⟩
      exact Finishes.pure rfl
    · rintro e w₁ ⟨⟨n, heq⟩, -⟩
      cases heq
  obtain ⟨w', rfl, hafter⟩ := ingestOnce_finishes hbatch
  rw [hafter]
  have hassigned : (w.extend (consumer.batchAssignments clock w)
      ((consumer.batch w).flatMap (consumer.memoriesOf w.documents))).assigned =
      consumer.batchAssignments clock w := by
    unfold IngestionWorld.extend
    dsimp only
    rw [hclosed, List.nil_append]
  unfold carryOut
  simp only [hassigned]
  rfl

/-- A run whose batch has a failure leaves the events and the documents as they were. -/
theorem afterRun_of_exists (clock : Int → DateTime) (w : IngestionWorld)
    (h : ∃ event ∈ consumer.batch w, consumer.raises w.documents event = true) :
    ∃ memories, consumer.afterRun clock w =
      { w with memories := w.memories ++ memories, assigned := [], uncommitted := 0 } := by
  have hbatch : FinishesIngestion consumer (consumer.ingestBatch clock) w
      (fun _ w' => ∃ assigned memories, w' = w.extend assigned memories) := by
    unfold ingestBatch
    refine (finishes_perform _ w).bind ?_ (fun e w' h => by cases h.1)
    rintro events w ⟨heq, rfl⟩
    cases heq
    refine (loop_raises clock (consumer.batch w) 0 w h).bind ?_ (fun e w₁ h => h.2)
    rintro processed w₁ ⟨⟨e, heq⟩, -⟩
    cases heq
  obtain ⟨w', ⟨assigned, memories, rfl⟩, hafter⟩ := ingestOnce_finishes hbatch
  exact ⟨memories, hafter⟩

/-! ## Marks -/

theorem eventAfter_of_marked {assigned : List Assignment} {event : OutboxRecord}
    (h : event.ingestedAt ≠ none) : (eventAfter assigned event).ingestedAt ≠ none := by
  induction assigned generalizing event with
  | nil => exact h
  | cons assignment rest ih =>
    apply ih
    cases assignment with
    | ingestedAt eventId now =>
      dsimp only [Assignment.onEvent]
      split
      · exact nofun
      · exact h
    | status => exact h
    | ingestionError => exact h

theorem eventAfter_of_mem {assigned : List Assignment} {event : OutboxRecord} {now : DateTime}
    (h : .ingestedAt event.id now ∈ assigned) : (eventAfter assigned event).ingestedAt ≠ none := by
  obtain ⟨before, after, rfl⟩ := List.append_of_mem h
  unfold eventAfter
  rw [List.foldl_append, List.foldl_cons]
  apply eventAfter_of_marked
  have hid : (eventAfter before event).id = event.id := eventAfter_id before event
  change ((Assignment.ingestedAt event.id now).onEvent (eventAfter before event)).ingestedAt ≠ none
  dsimp only [Assignment.onEvent]
  rw [if_pos hid]
  exact nofun

theorem eventAfter_of_not_mem {assigned : List Assignment} {event : OutboxRecord}
    (h : ∀ now, .ingestedAt event.id now ∉ assigned) : eventAfter assigned event = event := by
  induction assigned generalizing event with
  | nil => rfl
  | cons assignment rest ih =>
    have hfirst : assignment.onEvent event = event := by
      cases assignment with
      | ingestedAt eventId now =>
        refine onEvent_ingestedAt_of_ne now ?_
        rintro rfl
        exact h now List.mem_cons_self
      | status => rfl
      | ingestionError => rfl
    change eventAfter rest (assignment.onEvent event) = event
    rw [hfirst]
    exact ih (fun now hmem => h now (List.mem_cons_of_mem assignment hmem))

/-- The round of an event marks it, and no other. -/
theorem ingestedAt_mem_assignmentsOf {documents : Table DocumentRecord.id} {now now' : DateTime}
    {event : OutboxRecord} {eventId : Int} :
    .ingestedAt eventId now' ∈ consumer.assignmentsOf documents now event ↔
      eventId = event.id ∧ now' = now := by
  unfold assignmentsOf documentAssignments
  split
  · simp
  · split <;> simp

theorem ingestedAt_mem_batchAssignments {clock : Int → DateTime} {w : IngestionWorld}
    {eventId : Int} : (∃ now, .ingestedAt eventId now ∈ consumer.batchAssignments clock w) ↔
      eventId ∈ (consumer.batch w).map (·.id) := by
  unfold batchAssignments
  simp only [List.mem_flatMap, ingestedAt_mem_assignmentsOf, List.mem_map]
  constructor
  · rintro ⟨now, event, hevent, rfl, -⟩
    exact ⟨event, hevent, rfl⟩
  · rintro ⟨event, hevent, rfl⟩
    exact ⟨_, event, hevent, rfl, rfl⟩

/-- After a run without a failure the events of its batch are no longer pending. -/
theorem pending_after (clock : Int → DateTime) (w : IngestionWorld) :
    pendingEvents consumer.topicName (w.outbox.mapRows
      (eventAfter (consumer.batchAssignments clock w)) (eventAfter_id _)) =
      (consumer.pending w).drop consumer.batchSize := by
  have hinBatch : ∀ event : OutboxRecord, event.id ∈ (consumer.batch w).map (·.id) →
      (eventAfter (consumer.batchAssignments clock w) event).ingestedAt ≠ none := by
    intro event hmem
    obtain ⟨now, hnow⟩ := ingestedAt_mem_batchAssignments.mpr hmem
    exact eventAfter_of_mem hnow
  have hoffBatch : ∀ event : OutboxRecord, event.id ∉ (consumer.batch w).map (·.id) →
      eventAfter (consumer.batchAssignments clock w) event = event := by
    intro event hmem
    apply eventAfter_of_not_mem
    exact fun now hnow => hmem (ingestedAt_mem_batchAssignments.mp ⟨now, hnow⟩)
  -- the rows that stay pending are the pending ones outside the batch, unchanged
  have hrows : (w.outbox.rows.map (eventAfter (consumer.batchAssignments clock w))).filter
        (fun event => event.topic = consumer.topicName ∧ event.ingestedAt = none) =
      (w.outbox.rows.filter (fun event => event.topic = consumer.topicName ∧
        event.ingestedAt = none)).filter (fun event =>
            event.id ∉ (consumer.batch w).map (·.id)) := by
    rw [List.filter_map, List.filter_filter]
    have hfilter : w.outbox.rows.filter ((fun event => decide (event.topic = consumer.topicName ∧
          event.ingestedAt = none)) ∘ eventAfter (consumer.batchAssignments clock w)) =
        w.outbox.rows.filter (fun event => decide (event.id ∉ (consumer.batch w).map (·.id)) &&
          decide (event.topic = consumer.topicName ∧ event.ingestedAt = none)) := by
      apply List.filter_congr
      intro event _
      by_cases hmem : event.id ∈ (consumer.batch w).map (·.id)
      · simp [hinBatch event hmem, hmem]
      · simp [hoffBatch event hmem, hmem]
    rw [hfilter]
    refine (List.map_congr_left ?_).trans (List.map_id _)
    intro event hevent
    have hmem := (List.mem_filter.mp hevent).2
    rw [Bool.and_eq_true, decide_eq_true_eq] at hmem
    exact hoffBatch event hmem.1
  have hnodup : ((consumer.pending w).map (·.id)).Nodup := pendingEvents_ids_nodup _ _
  unfold pendingEvents Table.mapRows
  dsimp only
  rw [hrows, Table.mergeSort_filter (w.outbox.keys_nodup.sublist (List.filter_sublist.map _))]
  change (consumer.pending w).filter _ = _
  have hsplit : (consumer.pending w).map (·.id) =
      (consumer.batch w).map (·.id) ++
          ((consumer.pending w).drop consumer.batchSize).map (·.id) := by
    rw [← List.map_append]
    unfold batch
    rw [List.take_append_drop]
  rw [hsplit] at hnodup
  have hbatch : (consumer.batch w).filter
      (fun event => decide (event.id ∉ (consumer.batch w).map (·.id))) = [] := by
    rw [List.filter_eq_nil_iff]
    intro event hevent hnot
    exact of_decide_eq_true hnot (List.mem_map_of_mem hevent)
  have hrest : ((consumer.pending w).drop consumer.batchSize).filter
      (fun event => decide (event.id ∉ (consumer.batch w).map (·.id))) =
      (consumer.pending w).drop consumer.batchSize := by
    rw [List.filter_eq_self]
    intro event hevent
    refine decide_eq_true ?_
    intro hmem
    exact (List.nodup_append.mp hnodup).2.2 _ hmem _ (List.mem_map_of_mem hevent) rfl
  have happend : consumer.pending w =
      consumer.batch w ++ (consumer.pending w).drop consumer.batchSize :=
    (List.take_append_drop _ _).symm
  calc (consumer.pending w).filter (fun event => decide (event.id ∉ (consumer.batch w).map (·.id)))
      = (consumer.batch w ++ (consumer.pending w).drop consumer.batchSize).filter
          (fun event => decide (event.id ∉ (consumer.batch w).map (·.id))) := by rw [← happend]
    _ = (consumer.pending w).drop consumer.batchSize := by
        rw [List.filter_append, hbatch, hrest, List.nil_append]

/-! ## Statuses and stored chunks -/

theorem documentAfter_append (assigned assigned' : List Assignment) (document : DocumentRecord) :
    documentAfter (assigned ++ assigned') document =
      documentAfter assigned' (documentAfter assigned document) :=
  List.foldl_append

theorem raises_mapRows (assigned : List Assignment) (documents : Table DocumentRecord.id)
    (event : OutboxRecord) :
    consumer.raises (documents.mapRows (documentAfter assigned) (documentAfter_id assigned)) event =
      consumer.raises documents event := by
  unfold raises
  cases consumer.documentOf event with
  | none => rfl
  | some documentId =>
    dsimp only
    rw [Table.find?_mapRows]
    cases documents.find? documentId with
    | none => rfl
    | some document => exact documentRaises_documentAfter assigned document

theorem Succeeds.mapRows {assigned : List Assignment} {documents : Table DocumentRecord.id}
    {event : OutboxRecord} {document : DocumentRecord} {chunks : List String}
    (h : consumer.Succeeds documents event document chunks) :
    consumer.Succeeds (documents.mapRows (documentAfter assigned) (documentAfter_id assigned)) event
      (documentAfter assigned document) chunks := by
  refine ⟨?_, ?_, ?_⟩
  · rw [documentAfter_id]
    exact h.names
  · rw [documentAfter_id, Table.find?_mapRows, h.found]
    rfl
  · rw [chunksOf_documentAfter]
    exact h.chunks

theorem Succeeds.textOf {documents : Table DocumentRecord.id} {event : OutboxRecord}
    {document : DocumentRecord} {chunks : List String}
    (h : consumer.Succeeds documents event document chunks) :
    ∃ text, consumer.textOf document = .ok text := by
  have hchunks := h.chunks
  rw [chunksOf_eq] at hchunks
  cases htext : consumer.textOf document with
  | ok text => exact ⟨text, rfl⟩
  | error e =>
    rw [htext] at hchunks
    cases hchunks

/-- A round leaves the documents of other events as they are. -/
theorem documentAfter_assignmentsOf_of_ne {documents : Table DocumentRecord.id} {now : DateTime}
    {event : OutboxRecord} {row : DocumentRecord} (h : consumer.documentOf event ≠ some row.id) :
    documentAfter (consumer.assignmentsOf documents now event) row = row := by
  unfold assignmentsOf
  split
  · rfl
  · rename_i document hdocument
    obtain ⟨documentId, hid, hfound⟩ := Option.bind_eq_some_iff.mp hdocument
    have hne : row.id ≠ document.id := by
      intro heq
      apply h
      rw [hid, heq, (Table.find?_eq_some_iff.mp hfound).2]
    unfold documentAssignments documentAfter
    split <;> simp only [List.foldl_cons, List.foldl_nil, Assignment.onDocument, if_neg hne]

/-- The rounds of a batch leave a document that succeeds indexed. -/
theorem status_indexed {documents : Table DocumentRecord.id} {clock : Int → DateTime}
    {document row : DocumentRecord} {text : String}
    (hfound : documents.find? document.id = some document)
    (htext : consumer.textOf document = .ok text) (events : List OutboxRecord)
    (hrow : row.id = document.id) (h : row.status = "indexed" ∨
      ∃ event ∈ events, consumer.documentOf event = some document.id) :
    (documentAfter (events.flatMap fun event =>
      consumer.assignmentsOf documents (clock event.id) event) row).status = "indexed" := by
  induction events generalizing row with
  | nil =>
    rcases h with hindexed | ⟨event, hevent, -⟩
    · exact hindexed
    · cases hevent
  | cons event rest ih =>
    rw [List.flatMap_cons, documentAfter_append]
    apply ih
    · rw [documentAfter_id]
      exact hrow
    by_cases hnames : consumer.documentOf event = some document.id
    · left
      unfold assignmentsOf documentAssignments documentAfter
      rw [hnames, Option.bind_some, hfound]
      simp only [htext, List.foldl_cons, List.foldl_nil, Assignment.onDocument, hrow, if_true]
    · rcases h with hindexed | ⟨other, hother, hid⟩
      · left
        rw [documentAfter_assignmentsOf_of_ne (by rwa [hrow])]
        exact hindexed
      · right
        rcases List.mem_cons.mp hother with rfl | hmem
        · exact absurd hid hnames
        · exact ⟨other, hmem, hid⟩

theorem storedChunks_sublist {w w' : IngestionWorld} {memories : List MemoryRecordWrite}
    (h : w'.memories = w.memories ++ memories) (documentId : Uuid) :
    (w.storedChunks documentId).Sublist (w'.storedChunks documentId) := by
  unfold IngestionWorld.storedChunks
  rw [h, List.filter_append, List.map_append]
  exact List.sublist_append_left _ _

/-- A batch stores all chunks of its documents that succeed. -/
theorem chunks_sublist {w w' : IngestionWorld} {documents : Table DocumentRecord.id}
    {events : List OutboxRecord} {event : OutboxRecord} {document : DocumentRecord}
    {chunks : List String}
    (hevent : event ∈ events) (hsucceeds : consumer.Succeeds documents event document chunks)
    (h : w'.memories = w.memories ++ events.flatMap (consumer.memoriesOf documents)) :
    chunks.Sublist (w'.storedChunks document.id) := by
  have hmemories : consumer.memoriesOf documents event = chunks.map (chunkMemory document) := by
    unfold memoriesOf
    rw [hsucceeds.names, Option.bind_some, hsucceeds.found]
    dsimp only
    rw [hsucceeds.chunks]
    rfl
  have hsub : (chunks.map (chunkMemory document)).Sublist w'.memories := by
    rw [h, ← hmemories]
    refine List.Sublist.trans ?_ (List.sublist_append_right _ _)
    rw [List.flatMap_def]
    exact List.sublist_flatten_of_mem (List.mem_map_of_mem hevent)
  have hstored : ((chunks.map (chunkMemory document)).filter
      (fun memory => memory.sourceDocumentId = some document.id)).map (·.content) = chunks := by
    rw [List.filter_eq_self.mpr, List.map_map]
    · exact List.map_id chunks
    · intro memory hmemory
      obtain ⟨chunk, -, rfl⟩ := List.mem_map.mp hmemory
      exact decide_eq_true rfl
  unfold IngestionWorld.storedChunks
  rw [← hstored]
  exact (hsub.filter _).map _

/-! ## Runs -/

/-- The first events of the start are done, and the others are as they were. -/
structure Progress (consumer : DocumentIngestionConsumer) (start : IngestionWorld) (done : Nat)
    (w : IngestionWorld) : Prop where
  pending : consumer.pending w = (consumer.pending start).drop done
  closed : w.assigned = []
  documents : ∃ assigned, w.documents =
    start.documents.mapRows (documentAfter assigned) (documentAfter_id assigned)
  indexed : ∀ event ∈ (consumer.pending start).take done, ∀ document chunks,
    consumer.Succeeds start.documents event document chunks → Indexed event document chunks w

variable {start w : IngestionWorld} {done : Nat}

theorem Progress.zero (hclosed : start.assigned = []) : Progress consumer start 0 start := by
  refine ⟨rfl, hclosed, ⟨[], ?_⟩, ?_⟩
  · ext1
    exact (List.map_id _).symm
  · intro event hevent
    cases hevent

theorem Progress.batch_eq (h : Progress consumer start done w) :
    consumer.batch w = ((consumer.pending start).drop done).take consumer.batchSize := by
  unfold batch
  rw [h.pending]

theorem Progress.raises_eq (h : Progress consumer start done w) (event : OutboxRecord) :
    consumer.raises w.documents event = consumer.raises start.documents event := by
  obtain ⟨assigned, hdocuments⟩ := h.documents
  rw [hdocuments, raises_mapRows]

/-- A run whose batch has no failure brings its documents to an end. -/
theorem Progress.next (clock : Int → DateTime) (h : Progress consumer start done w)
    (hbatch : ∀ event ∈ consumer.batch w, consumer.raises w.documents event = false) :
    Progress consumer start (done + consumer.batchSize) (consumer.afterRun clock w) := by
  rw [afterRun_of_forall clock w h.closed hbatch]
  obtain ⟨assigned, hdocuments⟩ := h.documents
  refine ⟨?_, rfl, ⟨assigned ++ consumer.batchAssignments clock w, ?_⟩, ?_⟩
  · refine (pending_after clock w).trans ?_
    rw [h.pending, List.drop_drop]
  · ext1
    dsimp only [Table.mapRows]
    rw [hdocuments]
    dsimp only [Table.mapRows]
    rw [List.map_map]
    refine List.map_congr_left ?_
    exact fun document _ => (documentAfter_append _ _ document).symm
  · intro event hevent document chunks hsucceeds
    have hnow : consumer.Succeeds w.documents event (documentAfter assigned document) chunks := by
      rw [hdocuments]
      exact hsucceeds.mapRows
    obtain ⟨text, htext⟩ := hnow.textOf
    have hstatus : ∀ row ∈ w.documents, row.id = document.id →
        (row.status = "indexed" ∨ event ∈ consumer.batch w) →
        (documentAfter (consumer.batchAssignments clock w) row).status = "indexed" := by
      intro row _ hrow hcase
      refine status_indexed hnow.found htext _ (hrow.trans (documentAfter_id _ _).symm) ?_
      rcases hcase with hindexed | hmem
      · exact .inl hindexed
      · exact .inr ⟨event, hmem, hnow.names⟩
    rw [List.take_add, List.mem_append, ← h.batch_eq] at hevent
    rcases hevent with hold | hnew
    · obtain ⟨⟨marked, hmarked, hid, hsome⟩, ⟨row, hrow, hrowId, hindexed⟩, hstored⟩ :=
        h.indexed event hold document chunks hsucceeds
      refine ⟨⟨_, List.mem_map_of_mem hmarked, (eventAfter_id _ _).trans hid, ?_⟩,
        ⟨_, List.mem_map_of_mem hrow, (documentAfter_id _ _).trans hrowId, ?_⟩, ?_⟩
      · exact eventAfter_of_marked hsome
      · exact hstatus row hrow hrowId (.inl hindexed)
      · exact hstored.trans (storedChunks_sublist rfl document.id)
    · have houtbox : event ∈ w.outbox := (mem_pendingEvents.mp (List.mem_of_mem_take hnew)).1
      have hfound := Table.find?_eq_some_iff.mp hnow.found
      have hmark : ∃ now, .ingestedAt event.id now ∈ consumer.batchAssignments clock w :=
        ingestedAt_mem_batchAssignments.mpr (List.mem_map_of_mem hnew)
      obtain ⟨now, hnow'⟩ := hmark
      refine ⟨⟨_, List.mem_map_of_mem houtbox, eventAfter_id _ _, eventAfter_of_mem hnow'⟩,
        ⟨_, List.mem_map_of_mem hfound.1, ?_, ?_⟩, ?_⟩
      · rw [documentAfter_id, documentAfter_id]
      · exact hstatus _ hfound.1 (documentAfter_id _ _) (.inr hnew)
      · rw [← documentAfter_id assigned document]
        exact chunks_sublist hnew hnow rfl

/-- A run whose batch has a failure brings nothing to an end. -/
theorem Progress.stuck (clock : Int → DateTime) (h : Progress consumer start done w)
    (hbatch : ∃ event ∈ consumer.batch w, consumer.raises w.documents event = true) :
    Progress consumer start done (consumer.afterRun clock w) := by
  obtain ⟨memories, hafter⟩ := afterRun_of_exists clock w hbatch
  rw [hafter]
  refine ⟨h.pending, rfl, h.documents, ?_⟩
  intro event hevent document chunks hsucceeds
  obtain ⟨hmarked, hstatus, hstored⟩ := h.indexed event hevent document chunks hsucceeds
  exact ⟨hmarked, hstatus, hstored.trans (storedChunks_sublist rfl document.id)⟩

/-- After some runs, a number of batches is done, and either every run has done one or the next
batch has a failure. -/
theorem exists_progress (clocks : Nat → Int → DateTime) (hclosed : start.assigned = []) (n : Nat) :
    ∃ m, Progress consumer start (m * consumer.batchSize) (consumer.afterRuns clocks start n) ∧
      (∀ event ∈ (consumer.pending start).take (m * consumer.batchSize),
        consumer.raises start.documents event = false) ∧
      (m = n ∨
        ∃ event ∈ ((consumer.pending start).drop (m * consumer.batchSize)).take consumer.batchSize,
        consumer.raises start.documents event = true) := by
  induction n with
  | zero =>
    refine ⟨0, ?_, ?_, .inl rfl⟩
    · rw [Nat.zero_mul]
      exact Progress.zero hclosed
    · rw [Nat.zero_mul]
      intro event hevent
      cases hevent
  | succ n ih =>
    obtain ⟨m, hprogress, hfine, hcase⟩ := ih
    by_cases hfails : ∃ event ∈ consumer.batch (consumer.afterRuns clocks start n),
        consumer.raises start.documents event = true
    · refine ⟨m, hprogress.stuck (clocks n) ?_, hfine, .inr ?_⟩
      · simpa only [hprogress.raises_eq] using hfails
      · rwa [hprogress.batch_eq] at hfails
    · have hbatch : ∀ event ∈ consumer.batch (consumer.afterRuns clocks start n),
          consumer.raises start.documents event = false := by
        intro event hevent
        rw [← Bool.not_eq_true]
        exact fun hraises => hfails ⟨event, hevent, hraises⟩
      have hm : m = n := by
        rcases hcase with heq | hstuck
        · exact heq
        · rw [← hprogress.batch_eq] at hstuck
          exact absurd hstuck hfails
      subst hm
      refine ⟨m + 1, ?_, ?_, .inl rfl⟩
      · rw [Nat.succ_mul]
        apply hprogress.next (clocks m)
        simpa only [hprogress.raises_eq] using hbatch
      · intro event hevent
        rw [Nat.succ_mul, List.take_add, List.mem_append, ← hprogress.batch_eq] at hevent
        rcases hevent with hold | hnew
        · exact hfine event hold
        · exact hbatch event hnew

/-- The place of an event of a batch. -/
theorem exists_index_of_mem_batch {events : List OutboxRecord} {event : OutboxRecord} {m b : Nat}
    (h : event ∈ (events.drop (m * b)).take b) : ∃ i, events[i]? = some event ∧ i / b = m := by
  obtain ⟨i, hi⟩ := List.mem_iff_getElem?.mp h
  rw [List.getElem?_take] at hi
  split at hi
  · rename_i hlt
    rw [List.getElem?_drop] at hi
    refine ⟨m * b + i, hi, ?_⟩
    have hpos : 0 < b := by omega
    rw [Nat.mul_comm m b, Nat.mul_add_div hpos, Nat.div_eq_of_lt hlt, Nat.add_zero]
  · cases hi

/-- A document that is indexed is in a batch before every failing one. -/
theorem NotBlocked.aheadOfFailures {clocks : Nat → Int → DateTime} {w : IngestionWorld}
    (h : consumer.NotBlocked clocks w) (hclosed : w.assigned = [])
    (hbatch : 0 < consumer.batchSize) : consumer.AheadOfFailures w := by
  intro i j failing event hi hj hraises ⟨document, chunks, hsucceeds⟩
  obtain ⟨n, hprogress⟩ := h.progress
  obtain ⟨m, hm, hfine, -⟩ := exists_progress clocks hclosed n
  have hfailing : m * consumer.batchSize ≤ i := by
    by_contra hlt
    have hmem : failing ∈ (consumer.pending w).take (m * consumer.batchSize) := by
      have hget : ((consumer.pending w).take (m * consumer.batchSize))[i]? = some failing := by
        rwa [List.getElem?_take_of_lt (by omega)]
      exact List.mem_of_getElem? hget
    rw [hfine failing hmem] at hraises
    cases hraises
  have hevent : j < m * consumer.batchSize := by
    by_contra hge
    have hmem : event ∈ consumer.pending (consumer.afterRuns clocks w n) := by
      have hget :
          ((consumer.pending w).drop (m * consumer.batchSize))[j - m * consumer.batchSize]? =
          some event := by
        rwa [List.getElem?_drop,
          show m * consumer.batchSize + (j - m * consumer.batchSize) = j by omega]
      rw [hm.pending]
      exact List.mem_of_getElem? hget
    obtain ⟨row, hrow, hid, hsome⟩ :=
      (hprogress event (List.mem_of_getElem? hj) document chunks hsucceeds).marked
    obtain ⟨houtbox, hpending⟩ := mem_pendingEvents.mp hmem
    rw [Table.eq_of_key_eq hrow houtbox hid] at hsome
    exact hsome hpending.2
  calc j / consumer.batchSize < m := (Nat.div_lt_iff_lt_mul hbatch).mpr hevent
    _ ≤ i / consumer.batchSize := (Nat.le_div_iff_mul_le hbatch).mpr hfailing

/-- The batches before the first failing document are done, one in each run. -/
theorem AheadOfFailures.notBlocked {clocks : Nat → Int → DateTime} {w : IngestionWorld}
    (h : consumer.AheadOfFailures w) (hclosed : w.assigned = []) (hbatch : 0 < consumer.batchSize) :
    consumer.NotBlocked clocks w := by
  constructor
  · refine ⟨(consumer.pending w).length, ?_⟩
    intro event hmem document chunks hsucceeds
    obtain ⟨m, hm, hfine, hcase⟩ :=
      exists_progress clocks hclosed (consumer.pending w).length
    obtain ⟨j, hj⟩ := List.mem_iff_getElem?.mp hmem
    have hlt : j < m * consumer.batchSize := by
      rcases hcase with rfl | ⟨failing, hfailing, hraises⟩
      · obtain ⟨hlength, -⟩ := List.getElem?_eq_some_iff.mp hj
        calc j < (consumer.pending w).length := hlength
          _ = (consumer.pending w).length * 1 := (Nat.mul_one _).symm
          _ ≤ (consumer.pending w).length * consumer.batchSize := Nat.mul_le_mul_left _ hbatch
      · obtain ⟨i, hget, hi⟩ := exists_index_of_mem_batch hfailing
        have hahead := h i j failing event hget hj hraises ⟨document, chunks, hsucceeds⟩
        rw [hi] at hahead
        exact (Nat.div_lt_iff_lt_mul hbatch).mp hahead
    have htake : ((consumer.pending w).take (m * consumer.batchSize))[j]? = some event := by
      rwa [List.getElem?_take_of_lt hlt]
    exact hm.indexed event (List.mem_of_getElem? htake) document chunks hsucceeds
  · intro n before event after hsplit _ document chunks hsucceeds
    obtain ⟨m, hm, -, -⟩ := exists_progress clocks hclosed n
    have hmem : event ∈ consumer.batch (consumer.afterRuns clocks w n) := by
      unfold batch
      rw [hsplit]
      exact List.mem_append_right before List.mem_cons_self
    have hfine : ∀ other ∈ consumer.batch (consumer.afterRuns clocks w n),
        consumer.raises (consumer.afterRuns clocks w n).documents other = false := by
      intro other hother
      rw [hm.raises_eq, ← Bool.not_eq_true]
      intro hraises
      rw [hm.batch_eq] at hmem hother
      obtain ⟨i, hi, hdivi⟩ := exists_index_of_mem_batch hother
      obtain ⟨j, hj, hdivj⟩ := exists_index_of_mem_batch hmem
      have hahead := h i j other event hi hj hraises ⟨document, chunks, hsucceeds⟩
      omega
    have hnext := hm.next (clocks n) hfine
    apply hnext.indexed event ?_ document chunks hsucceeds
    rw [List.take_add, List.mem_append, ← hm.batch_eq]
    exact .inr hmem

/-- Failing documents do not block the others exactly when those are in earlier batches. -/
theorem notBlocked_iff (consumer : DocumentIngestionConsumer) (clocks : Nat → Int → DateTime)
    (w : IngestionWorld) (hclosed : w.assigned = []) (hbatch : 0 < consumer.batchSize) :
    consumer.NotBlocked clocks w ↔ consumer.AheadOfFailures w :=
  ⟨fun h => h.aheadOfFailures hclosed hbatch, fun h => h.notBlocked hclosed hbatch⟩

end DocumentIngestionConsumer

/-! ## A special token in a text -/

/-- Texts are downloaded from blobs with their own names; the encoding rejects its special token. -/
def specialTokenConsumer : DocumentIngestionConsumer where
  py := .ascii
  download _ blobName := .ok blobName.toUTF8
  textExtractor := ⟨fun _ => .ok [], fun _ => .ok []⟩
  chunker := {
    chunkTokens := 50
    overlapTokens := 10
    encode := fun text =>
      if text.toList.tails.any ("<|endoftext|>".toList.isPrefixOf ·) then
        .error (PyError.valueError "Encountered text corresponding to disallowed special token")
      else .ok (text.toList.map Char.toNat)
    decode := fun tokens => String.ofList (tokens.map Char.ofNat) }
  batchSize := 10
  topicName := "document.uploaded.v1"

/-- A note that mentions the special token is uploaded before the handbook. -/
def noteUploaded : IngestionWorld where
  outbox := ⟨[⟨1, "document.uploaded.v1", (Uuid.ofNat 1).str, none⟩,
    ⟨2, "document.uploaded.v1", (Uuid.ofNat 2).str, none⟩], by decide⟩
  documents := ⟨[{ handbook with blobName := "a <|endoftext|> b" },
    { handbook with id := .ofNat 2, blobName := "Reports." }], by decide⟩
  memories := []
  assigned := []
  uncommitted := 0

namespace DocumentIngestionConsumer

theorem pending_noteUploaded :
    specialTokenConsumer.pending noteUploaded = noteUploaded.outbox.rows :=
  List.mergeSort_of_pairwise (by decide)

/-- The note is in the batch of the handbook. -/
theorem not_aheadOfFailures_noteUploaded : ¬ specialTokenConsumer.AheadOfFailures noteUploaded := by
  intro h
  have hraises : specialTokenConsumer.raises noteUploaded.documents
      ⟨1, "document.uploaded.v1", (Uuid.ofNat 1).str, none⟩ = true := by decide +kernel
  have hsucceeds : specialTokenConsumer.Succeeds noteUploaded.documents
      ⟨2, "document.uploaded.v1", (Uuid.ofNat 2).str, none⟩
      { handbook with id := .ofNat 2, blobName := "Reports." } ["Reports."] := by
    refine ⟨?_, ?_, ?_⟩ <;> decide +kernel
  unfold AheadOfFailures at h
  rw [pending_noteUploaded] at h
  have hlt := h 0 1 _ _ rfl rfl hraises ⟨_, _, hsucceeds⟩
  exact absurd hlt (by decide)

theorem notBlocked_iff_note :
    ¬ specialTokenConsumer.NotBlocked (fun _ _ => 0) noteUploaded := by
  rw [notBlocked_iff specialTokenConsumer (fun _ _ => 0) noteUploaded rfl (by decide)]
  exact not_aheadOfFailures_noteUploaded

theorem note_blocks_handbook : ¬ ∀ (consumer : DocumentIngestionConsumer)
    (clocks : Nat → Int → DateTime) (w : IngestionWorld), w.assigned = [] → 0 < consumer.batchSize →
    consumer.NotBlocked clocks w := by
  intro h
  have hnote := h specialTokenConsumer (fun _ _ => 0) noteUploaded rfl (by decide)
  exact not_aheadOfFailures_noteUploaded (hnote.aheadOfFailures rfl (by decide))

end DocumentIngestionConsumer

end HotAirBalloon.Documents
