import HotAirBalloon.Documents.Ingestion

/-!
# How often a chunk is stored

Runs of the consumer over uploaded documents, where any call of any run may fail. The chunks reach
the memory store before the events are marked, so a run that raises in between leaves chunks behind
and the next run stores them again. When no run ends between storing a chunk and its commit, what is
stored for a document is always a prefix of its chunks.
-/

namespace HotAirBalloon.Documents

open Python Library Evidence Memory

namespace DocumentIngestionConsumer

variable (consumer : DocumentIngestionConsumer)

/-- The document that an event names. -/
def documentOf (event : OutboxRecord) : Option Uuid :=
  Uuid.parse consumer.py.toUnicodeData event.key

def Pending (event : OutboxRecord) : Prop :=
  event.topic = consumer.topicName ∧ event.ingestedAt = none

/-- One event of the topic for each document. -/
def OneEvent (outbox : Table OutboxRecord.id) : Prop :=
  ∀ event ∈ outbox, ∀ event' ∈ outbox, event.topic = consumer.topicName →
    event'.topic = consumer.topicName → ∀ documentId, consumer.documentOf event = some documentId →
    consumer.documentOf event' = some documentId → event.id = event'.id

/-- The chunks of the document with an id, if its text can be read. -/
def chunksIn (documents : Table DocumentRecord.id) (documentId : Uuid) : List String :=
  match documents.find? documentId with
  | some document => (consumer.chunksOf document).toOption.getD []
  | none => []

/-- Documents have been uploaded, and no run has started. -/
structure Uploaded (w : IngestionWorld) : Prop where
  oneEvent : consumer.OneEvent w.outbox
  noChunks : ∀ documentId, w.storedChunks documentId = []
  assigned : w.assigned = []
  uncommitted : w.uncommitted = 0

/-- What is stored for a document is a prefix of its chunks: none is stored twice. -/
def RecordedOnce (documents : Table DocumentRecord.id) (w : IngestionWorld) : Prop :=
  ∀ documentId, w.storedChunks documentId <+: consumer.chunksIn documents documentId

/-- A run that has stored a chunk ends only after its commit. -/
def endsCommitted (_ : Unit) (op : IngestionOp) (w : IngestionWorld) : Prop :=
  match op with
  | .close => w.uncommitted = 0
  | _ => True

/-! ## The invariant and the points of a run -/

structure IngestionInv (documents : Table DocumentRecord.id) (w : IngestionWorld) : Prop where
  chunks : consumer.chunksIn w.documents = consumer.chunksIn documents
  oneEvent : consumer.OneEvent w.outbox
  recorded : consumer.RecordedOnce documents w
  /-- Between the runs, pending documents have no chunks. -/
  clean : w.uncommitted = 0 → ∀ event ∈ w.outbox, consumer.Pending event →
    ∀ documentId, consumer.documentOf event = some documentId → w.storedChunks documentId = []

def ingestionRely (documents : Table DocumentRecord.id) :
    Rely Unit PyError IngestionOp IngestionOp.Reply Delivery IngestionWorld where
  exec := consumer.exec
  cond := endsCommitted
  inv := consumer.IngestionInv documents
  guar := fun _ _ _ => True

/-- No run is in progress. -/
def Idle (w : IngestionWorld) : Prop := w.assigned = [] ∧ w.uncommitted = 0

/-- A pending event, as the session has loaded it. -/
structure Loaded (event : OutboxRecord) (w : IngestionWorld) : Prop where
  mem : event ∈ w.outbox
  pending : consumer.Pending event
  unassigned : eventAfter w.assigned event = event

/-- The events that are still pending for the session, but for a given one, have no chunks. -/
def Unseen (except : Option Int) (w : IngestionWorld) : Prop :=
  ∀ event ∈ w.outbox, some event.id ≠ except → consumer.Pending (eventAfter w.assigned event) →
    ∀ documentId, consumer.documentOf event = some documentId → w.storedChunks documentId = []

/-- Before a round of the loop over the events. -/
structure BeforeRound (rest : List OutboxRecord) (w : IngestionWorld) : Prop where
  loaded : ∀ event ∈ rest, consumer.Loaded event w
  ids : (rest.map (·.id)).Nodup
  unseen : consumer.Unseen none w

/-- In the round of an event, with some chunks of its document left to store. -/
structure InRound (documents : Table DocumentRecord.id) (event : OutboxRecord) (documentId : Uuid)
    (rest : List OutboxRecord) (left : List String) (w : IngestionWorld) : Prop where
  loaded : ∀ other ∈ event :: rest, consumer.Loaded other w
  ids : ((event :: rest).map (·.id)).Nodup
  names : consumer.documentOf event = some documentId
  unseen : consumer.Unseen (some event.id) w
  stored : ∃ done, consumer.chunksIn documents documentId = done ++ left ∧
    w.storedChunks documentId = done

/-! ## Assignments and stored chunks -/

variable {consumer}

theorem uuidOf_eq_ok {event : OutboxRecord} {documentId : Uuid}
    (h : uuidOf consumer.py event.key = .ok documentId) :
    consumer.documentOf event = some documentId := by
  unfold uuidOf at h
  unfold documentOf
  split at h
  · rename_i id hparse
    cases h
    exact hparse
  · cases h

theorem eventAfter_append (assigned : List Assignment) (assignment : Assignment)
    (event : OutboxRecord) :
    eventAfter (assigned ++ [assignment]) event =
      assignment.onEvent (eventAfter assigned event) := by
  unfold eventAfter
  rw [List.foldl_append]
  rfl

theorem onEvent_ingestedAt_of_ne {event : OutboxRecord} {eventId : Int} (now : DateTime)
    (h : event.id ≠ eventId) : (Assignment.ingestedAt eventId now).onEvent event = event :=
  if_neg h

theorem not_pending_ingestedAt {event : OutboxRecord} {eventId : Int} (now : DateTime)
    (h : event.id = eventId) :
    ¬ consumer.Pending ((Assignment.ingestedAt eventId now).onEvent event) := by
  intro hpending
  have heq :
      (Assignment.ingestedAt eventId now).onEvent event = { event with ingestedAt := some now } :=
    if_pos h
  rw [heq] at hpending
  cases hpending.2

theorem eventAfter_topic (assigned : List Assignment) (event : OutboxRecord) :
    (eventAfter assigned event).topic = event.topic := by
  obtain ⟨ingestedAt, heq⟩ := eventAfter_eq assigned event
  rw [heq]

theorem documentOf_eventAfter (assigned : List Assignment) (event : OutboxRecord) :
    consumer.documentOf (eventAfter assigned event) = consumer.documentOf event := by
  obtain ⟨ingestedAt, heq⟩ := eventAfter_eq assigned event
  rw [heq]
  rfl

theorem chunksIn_mapRows (assigned : List Assignment) (documents : Table DocumentRecord.id) :
    consumer.chunksIn (documents.mapRows (documentAfter assigned) (documentAfter_id assigned)) =
      consumer.chunksIn documents := by
  funext documentId
  unfold chunksIn
  rw [Table.find?_mapRows]
  cases documents.find? documentId with
  | none => rfl
  | some document =>
    dsimp only [Option.map_some]
    rw [chunksOf_documentAfter]

theorem storedChunks_append (w : IngestionWorld) (document : DocumentRecord) (chunk : String)
    (n : Nat) (documentId : Uuid) :
    IngestionWorld.storedChunks
      { w with
        memories := w.memories ++ [chunkMemory document chunk]
        uncommitted := n } documentId =
      w.storedChunks documentId ++ if document.id = documentId then [chunk] else [] := by
  unfold IngestionWorld.storedChunks
  rw [List.filter_append, List.map_append]
  congr 1
  by_cases hid : document.id = documentId
  · simp [chunkMemory, hid]
  · simp [chunkMemory, hid]

/-! ## One call -/

variable {documents : Table DocumentRecord.id}

/-- An assertion about the only process: nobody else takes steps. -/
theorem stable_unit (P : IngestionWorld → Prop) : Stable (consumer.ingestionRely documents) () P :=
  fun _ _ j hj => absurd (Subsingleton.elim j ()) hj

/-- A call is carried out, or it raises. -/
theorem outline_perform {P : IngestionWorld → Prop} {op : IngestionOp}
    {R : op.Reply → IngestionWorld → Prop}
    (h : ∀ w, consumer.IngestionInv documents w → P w → endsCommitted () op w →
      consumer.IngestionInv documents (consumer.carryOut op w).2 ∧
        okOnly R (consumer.carryOut op w).1 (consumer.carryOut op w).2) :
    Outline (consumer.ingestionRely documents) () P (Prog.perform op) (okOnly R) := by
  refine Outline.perform (fun _ => stable_unit _) ?_
  intro w delivery r w' hinv hP hcond hexec
  obtain ⟨hinv', hR⟩ := h w hinv hP hcond
  have harrived : consumer.IngestionInv documents (consumer.carryOut op w).2 ∧ True ∧
      okOnly R (consumer.carryOut op w).1 (consumer.carryOut op w).2 := ⟨hinv', trivial, hR⟩
  dsimp only [ingestionRely, exec] at hexec
  generalize consumer.carryOut op w = out at hexec harrived hinv'
  obtain ⟨reply, world⟩ := out
  cases delivery with
  | arrives =>
    cases hexec
    exact harrived
  | lost e =>
    dsimp only at hexec
    split at hexec
    · cases hexec
      exact harrived
    · cases hexec
      exact ⟨hinv, trivial, trivial⟩
  | late e =>
    dsimp only at hexec
    split at hexec
    · cases hexec
      exact harrived
    · cases hexec
      exact ⟨hinv', trivial, trivial⟩

/-- A call that only reads. -/
theorem outline_read {P : IngestionWorld → Prop} {op : IngestionOp}
    {R : op.Reply → IngestionWorld → Prop} (hread : ∀ w, (consumer.carryOut op w).2 = w)
    (h : ∀ w, consumer.IngestionInv documents w → P w → okOnly R (consumer.carryOut op w).1 w) :
    Outline (consumer.ingestionRely documents) () P (Prog.perform op) (okOnly R) := by
  apply outline_perform
  intro w hinv hP _
  rw [hread]
  exact ⟨hinv, h w hinv hP⟩

/-- A call that only reads leaves the world as it is also when it raises. -/
theorem outline_peek {P : IngestionWorld → Prop} {op : IngestionOp} {fact : op.Reply → Prop}
    (hread : ∀ w, (consumer.carryOut op w).2 = w)
    (h : ∀ w a, (consumer.carryOut op w).1 = .ok a → fact a) :
    Outline (consumer.ingestionRely documents) () P (Prog.perform op)
      (fun r w => P w ∧ ∀ a, r = .ok a → fact a) := by
  refine Outline.perform (fun _ => stable_unit _) ?_
  intro w delivery r w' hinv hP _ hexec
  have hsame : w' = w ∧ ∀ a, r = .ok a → fact a := by
    have hw := hread w
    have hr := h w
    dsimp only [ingestionRely, exec] at hexec
    generalize consumer.carryOut op w = out at hexec hw hr
    obtain ⟨reply, world⟩ := out
    cases delivery with
    | arrives =>
      cases hexec
      exact ⟨hw, hr⟩
    | lost e =>
      dsimp only at hexec
      split at hexec
      · cases hexec
        exact ⟨hw, hr⟩
      · cases hexec
        exact ⟨rfl, nofun⟩
    | late e =>
      dsimp only at hexec
      split at hexec
      · cases hexec
        exact ⟨hw, hr⟩
      · cases hexec
        exact ⟨hw, nofun⟩
  obtain ⟨rfl, hfact⟩ := hsame
  exact ⟨hinv, trivial, hP, hfact⟩

/-- An assignment changes nothing that the invariant speaks of. -/
theorem outline_assign {P : IngestionWorld → Prop} {assignment : Assignment}
    (R : IngestionWorld → Prop)
    (h : ∀ w, P w → R { w with assigned := w.assigned ++ [assignment] }) :
    Outline (consumer.ingestionRely documents) () P (assign assignment) (okOnly fun _ => R) := by
  apply outline_perform
  intro w hinv hP _
  exact ⟨⟨hinv.chunks, hinv.oneEvent, hinv.recorded, hinv.clean⟩, h w hP⟩

/-! ## A round -/

/-- An assignment to a document leaves the events as they were. -/
theorem InRound.assignDocument {event : OutboxRecord} {documentId : Uuid} {rest : List OutboxRecord}
    {left : List String} {w : IngestionWorld} {assignment : Assignment}
    (h : consumer.InRound documents event documentId rest left w)
    (hevents : ∀ event, assignment.onEvent event = event) :
    consumer.InRound documents event documentId rest left
      { w with assigned := w.assigned ++ [assignment] } := by
  have hafter : ∀ other,
      eventAfter (w.assigned ++ [assignment]) other = eventAfter w.assigned other := by
    intro other
    rw [eventAfter_append, hevents]
  refine ⟨?_, h.ids, h.names, ?_, h.stored⟩
  · intro other hother
    have hloaded := h.loaded other hother
    exact ⟨hloaded.mem, hloaded.pending, (hafter other).trans hloaded.unassigned⟩
  · intro other hother hne hpending
    dsimp only at hpending
    rw [hafter other] at hpending
    exact h.unseen other hother hne hpending

/-- Marking the event ends its round. -/
theorem InRound.mark {event : OutboxRecord} {documentId : Uuid} {rest : List OutboxRecord}
    {left : List String} {w : IngestionWorld} {now : DateTime}
    (h : consumer.InRound documents event documentId rest left w) :
    consumer.BeforeRound rest { w with assigned := w.assigned ++ [.ingestedAt event.id now] } := by
  have hids : event.id ∉ rest.map (·.id) ∧ (rest.map (·.id)).Nodup := List.nodup_cons.mp h.ids
  refine ⟨?_, hids.2, ?_⟩
  · intro other hother
    have hloaded := h.loaded other (List.mem_cons_of_mem event hother)
    have hne : other.id ≠ event.id := fun heq => hids.1 (heq ▸ List.mem_map_of_mem hother)
    refine ⟨hloaded.mem, hloaded.pending, ?_⟩
    dsimp only
    rw [eventAfter_append, hloaded.unassigned]
    exact onEvent_ingestedAt_of_ne now hne
  · intro other hother _ hpending
    dsimp only at hpending
    rw [eventAfter_append] at hpending
    by_cases hid : other.id = event.id
    · exact absurd hpending (not_pending_ingestedAt now ((eventAfter_id _ _).trans hid))
    · rw [onEvent_ingestedAt_of_ne now (by rwa [eventAfter_id])] at hpending
      exact h.unseen other hother (by simpa using hid) hpending

/-- A round starts with nothing stored for its document. -/
theorem BeforeRound.start {event : OutboxRecord} {documentId : Uuid} {rest : List OutboxRecord}
    {w : IngestionWorld} (h : consumer.BeforeRound (event :: rest) w)
    (hnames : consumer.documentOf event = some documentId) :
    consumer.InRound documents event documentId rest
      (consumer.chunksIn documents documentId) w := by
  have hloaded := h.loaded event List.mem_cons_self
  refine ⟨h.loaded, h.ids, hnames, ?_, [], rfl, ?_⟩
  · intro other hother _ hpending
    exact h.unseen other hother nofun hpending
  · apply h.unseen event hloaded.mem nofun
    · rw [hloaded.unassigned]
      exact hloaded.pending
    · exact hnames

/-- Storing the next chunk. -/
theorem InRound.record {event : OutboxRecord} {documentId : Uuid} {rest : List OutboxRecord}
    {chunk : String} {left : List String} {w : IngestionWorld} {document : DocumentRecord}
    (hinv : consumer.IngestionInv documents w)
    (h : consumer.InRound documents event documentId rest (chunk :: left) w)
    (hdocument : document.id = documentId) :
    consumer.IngestionInv documents
        (consumer.carryOut (.record (chunkMemory document chunk)) w).2 ∧
      consumer.InRound documents event documentId rest left
        (consumer.carryOut (.record (chunkMemory document chunk)) w).2 := by
  obtain ⟨done, hchunks, hstored⟩ := h.stored
  have hothers : ∀ id, id ≠ documentId →
      (consumer.carryOut (.record (chunkMemory document chunk)) w).2.storedChunks id =
        w.storedChunks id := by
    intro id hne
    refine (storedChunks_append w document chunk (w.uncommitted + 1) id).trans ?_
    rw [if_neg (fun heq => hne (heq.symm.trans hdocument)), List.append_nil]
  have hthis :
      (consumer.carryOut (.record (chunkMemory document chunk)) w).2.storedChunks documentId =
      done ++ [chunk] := by
    refine (storedChunks_append w document chunk (w.uncommitted + 1) documentId).trans ?_
    rw [if_pos hdocument, hstored]
  have hsplit : consumer.chunksIn documents documentId = (done ++ [chunk]) ++ left := by
    rw [hchunks, List.append_assoc]
    rfl
  constructor
  · refine ⟨hinv.chunks, hinv.oneEvent, ?_, ?_⟩
    · intro id
      by_cases hid : id = documentId
      · subst hid
        rw [hthis, hsplit]
        exact List.prefix_append _ _
      · rw [hothers id hid]
        exact hinv.recorded id
    · intro huncommitted
      exact absurd huncommitted (Nat.succ_ne_zero _)
  · refine ⟨?_, h.ids, h.names, ?_, done ++ [chunk], hsplit, hthis⟩
    · intro other hother
      have hloaded := h.loaded other hother
      exact ⟨hloaded.mem, hloaded.pending, hloaded.unassigned⟩
    · intro other hother hne hpending id hid
      -- another event of the same document would be this one
      have htopic : other.topic = consumer.topicName :=
        (eventAfter_topic w.assigned other).symm.trans hpending.1
      have hevent := h.loaded event List.mem_cons_self
      have hidne : id ≠ documentId := by
        rintro rfl
        apply hne
        rw [hinv.oneEvent other hother event hevent.mem htopic hevent.pending.1 id hid h.names]
      rw [hothers id hidne]
      exact h.unseen other hother hne hpending id hid

theorem indexDocument_outline {event : OutboxRecord} {documentId : Uuid} {rest : List OutboxRecord}
    {document : DocumentRecord} {text : String} (now : DateTime)
    (hdocument : document.id = documentId)
    (htext : ∀ chunks, consumer.chunker.chunk text = .ok chunks →
      consumer.chunksIn documents documentId = chunks) :
    Outline (consumer.ingestionRely documents) ()
      (consumer.InRound documents event documentId rest (consumer.chunksIn documents documentId))
      (indexDocument now event document text) (okOnly fun _ => consumer.BeforeRound rest) := by
  have hchunk : Outline (consumer.ingestionRely documents) ()
      (consumer.InRound documents event documentId rest (consumer.chunksIn documents documentId))
      (Prog.perform (IngestionOp.chunk text))
      (okOnly fun chunks => consumer.InRound documents event documentId rest chunks) := by
    apply outline_read (fun _ => rfl)
    intro w _ h
    change okOnly _ (consumer.chunker.chunk text) w
    cases hchunks : consumer.chunker.chunk text with
    | error e => trivial
    | ok chunks =>
      rw [htext chunks hchunks] at h
      exact h
  refine hchunk.bindOk ?_
  intro chunks
  have hloop : Outline (consumer.ingestionRely documents) ()
      (consumer.InRound documents event documentId rest chunks)
      (Prog.forEach chunks fun chunk =>
        Prog.perform (IngestionOp.record (chunkMemory document chunk)))
      (okOnly fun _ => consumer.InRound documents event documentId rest []) := by
    refine Outline.forRest (consumer.InRound documents event documentId rest) ?_ (fun _ _ h => h)
    intro chunk left
    have hrecord : Outline (consumer.ingestionRely documents) ()
        (consumer.InRound documents event documentId rest (chunk :: left))
        (Prog.perform (IngestionOp.record (chunkMemory document chunk)))
        (okOnly fun _ => consumer.InRound documents event documentId rest left) :=
      outline_perform (fun w hinv h _ => InRound.record hinv h hdocument)
    exact hrecord.post (fun r w _ h => by cases r <;> exact h)
  refine hloop.bindOk ?_
  intro _
  have hstatus : ∀ assignment : Assignment, (∀ event, assignment.onEvent event = event) →
      Outline (consumer.ingestionRely documents) ()
        (consumer.InRound documents event documentId rest []) (assign assignment)
        (okOnly fun _ => consumer.InRound documents event documentId rest []) :=
    fun assignment hevents => outline_assign _ (fun w h => h.assignDocument hevents)
  refine (hstatus (.status document.id "indexed") (fun _ => rfl)).bindOk (fun _ => ?_)
  refine (hstatus (.ingestionError document.id none) (fun _ => rfl)).bindOk (fun _ => ?_)
  exact outline_assign _ (fun w h => h.mark)

theorem failDocument_outline {event : OutboxRecord} {documentId : Uuid} {rest : List OutboxRecord}
    {left : List String} {document : DocumentRecord} (now : DateTime) (e : PyError) :
    Outline (consumer.ingestionRely documents) ()
      (consumer.InRound documents event documentId rest left)
      (failDocument now event document e) (okOnly fun _ => consumer.BeforeRound rest) := by
  have hstatus : ∀ assignment : Assignment, (∀ event, assignment.onEvent event = event) →
      Outline (consumer.ingestionRely documents) ()
        (consumer.InRound documents event documentId rest left) (assign assignment)
        (okOnly fun _ => consumer.InRound documents event documentId rest left) :=
    fun assignment hevents => outline_assign _ (fun w h => h.assignDocument hevents)
  refine (hstatus (.status document.id "failed") (fun _ => rfl)).bindOk (fun _ => ?_)
  refine (hstatus (.ingestionError document.id _) (fun _ => rfl)).bindOk (fun _ => ?_)
  exact outline_assign _ (fun w h => h.mark)

/-- Reading the text of a document changes nothing; the chunks of the text are the document's. -/
theorem extractText_outline (P : IngestionWorld → Prop) (document : DocumentRecord) :
    Outline (consumer.ingestionRely documents) () P (extractText document)
      (fun r w => P w ∧ ∀ text, r = .ok text → ∀ chunks, consumer.chunker.chunk text = .ok chunks →
        consumer.chunksOf document = .ok chunks) := by
  have hdownload : Outline (consumer.ingestionRely documents) () P
      (Prog.perform (IngestionOp.download document.blobContainer document.blobName))
      (fun r w => P w ∧ ∀ payload, r = .ok payload →
        consumer.download document.blobContainer document.blobName = .ok payload) :=
    outline_peek (fun _ => rfl) (fun _ _ h => h)
  refine hdownload.bind (fun payload => ?_) (fun e w _ h => ⟨h.1, nofun⟩)
  refine Outline.assume (fun w _ h => h.2 payload rfl) ?_
  intro hpayload
  have hextract : Outline (consumer.ingestionRely documents) ()
      (fun w => P w ∧ ∀ a, (Except.ok payload : Except PyError ByteArray) = .ok a →
        consumer.download document.blobContainer document.blobName = .ok a)
      (Prog.perform (IngestionOp.extract document.contentType payload)) (fun r w => _ ∧ ∀ text,
        r = .ok text → consumer.textExtractor.extract document.contentType payload = .ok text) :=
    outline_peek (fun _ => rfl) (fun _ _ h => h)
  refine hextract.post ?_
  rintro r w _ ⟨h, htext⟩
  refine ⟨h.1, ?_⟩
  intro text hr chunks hchunks
  unfold chunksOf
  rw [hpayload]
  change (consumer.textExtractor.extract document.contentType payload >>= _) = _
  rw [htext text hr]
  exact hchunks

theorem ingestEvent_outline (now : DateTime) (processed : Nat) (event : OutboxRecord)
    (rest : List OutboxRecord) :
    Outline (consumer.ingestionRely documents) () (consumer.BeforeRound (event :: rest))
      (consumer.ingestEvent now processed event) (okOnly fun _ => consumer.BeforeRound rest) := by
  unfold ingestEvent
  have hid : Outline (consumer.ingestionRely documents) () (consumer.BeforeRound (event :: rest))
      (Prog.ofExcept (uuidOf consumer.py event.key)) (okOnly fun documentId w =>
        consumer.InRound documents event documentId rest
            (consumer.chunksIn documents documentId) w) := by
    refine Outline.ofExcept ?_
    intro w _ h
    cases huuid : uuidOf consumer.py event.key with
    | error e => trivial
    | ok documentId => exact h.start (uuidOf_eq_ok huuid)
  refine hid.bindOk ?_
  intro documentId
  have hget : Outline (consumer.ingestionRely documents) ()
      (consumer.InRound documents event documentId rest (consumer.chunksIn documents documentId))
      (Prog.perform (IngestionOp.getDocument documentId)) (okOnly fun found w =>
        consumer.InRound documents event documentId rest
          (consumer.chunksIn documents documentId) w ∧
          ∀ document, found = some document → document.id = documentId ∧
            ∀ chunks, consumer.chunksOf document = .ok chunks →
              consumer.chunksIn documents documentId = chunks) := by
    apply outline_read (fun _ => rfl)
    intro w hinv h
    refine ⟨h, ?_⟩
    intro document hfound
    obtain ⟨row, hrow, rfl⟩ := Option.map_eq_some_iff.mp hfound
    refine ⟨?_, ?_⟩
    · rw [documentAfter_id]
      exact (Table.find?_eq_some_iff.mp hrow).2
    · intro chunks hchunks
      rw [chunksOf_documentAfter] at hchunks
      rw [← hinv.chunks]
      unfold chunksIn
      rw [hrow]
      dsimp only
      rw [hchunks]
      rfl
  refine hget.bindOk ?_
  intro found
  cases found with
  | none =>
    refine (outline_assign (consumer.BeforeRound rest) (fun w h => h.1.mark)).bindOk (fun _ => ?_)
    exact Outline.pure (fun _ _ h => h)
  | some document =>
    refine Outline.assume (fun w _ h => h.2 document rfl) ?_
    rintro ⟨hdocument, hchunks⟩
    unfold ingestDocument
    refine (outline_assign (consumer.InRound documents event documentId rest
      (consumer.chunksIn documents documentId)) ?_).bindOk (fun _ => ?_)
    · intro w h
      exact h.1.assignDocument (fun _ => rfl)
    · refine (extractText_outline _ document).attemptOk.bindOk ?_
      intro result
      cases result with
      | ok text =>
        refine Outline.assume (fun w _ h => h.2 text rfl) ?_
        intro htext
        have hindex : Outline (consumer.ingestionRely documents) () _
            (indexDocument now event document text) (okOnly fun _ => consumer.BeforeRound rest) :=
          indexDocument_outline now hdocument (fun chunks h => hchunks chunks (htext chunks h))
        refine (hindex.pre (fun w _ h => h.1)).bindOk (fun _ => ?_)
        exact Outline.pure (fun _ _ h => h)
      | error e =>
        dsimp only
        split
        · refine ((failDocument_outline now e).pre (fun w _ h => h.1)).bindOk (fun _ => ?_)
          exact Outline.pure (fun _ _ h => h)
        · exact Outline.raise (fun _ _ _ => trivial)

/-! ## Runs -/

theorem mem_pendingEvents {outbox : Table OutboxRecord.id} {event : OutboxRecord} :
    event ∈ pendingEvents consumer.topicName outbox ↔ event ∈ outbox ∧ consumer.Pending event := by
  unfold pendingEvents Pending
  rw [List.mem_mergeSort, List.mem_filter, decide_eq_true_eq]
  rfl

theorem pendingEvents_ids_nodup (topic : String) (outbox : Table OutboxRecord.id) :
    ((pendingEvents topic outbox).map (·.id)).Nodup := by
  have hperm := (List.mergeSort_perm
    (outbox.rows.filter (fun event => event.topic = topic ∧ event.ingestedAt = none))
    (fun a b => decide (a.id ≤ b.id))).map (·.id)
  refine hperm.nodup_iff.mpr ?_
  exact outbox.keys_nodup.sublist (List.filter_sublist.map _)

theorem ingestBatch_outline (clock : Int → DateTime) :
    Outline (consumer.ingestionRely documents) () Idle (consumer.ingestBatch clock)
      (okOnly fun _ _ => True) := by
  unfold ingestBatch
  have hselect : Outline (consumer.ingestionRely documents) () Idle
      (Prog.perform (IngestionOp.selectEvents consumer.topicName consumer.batchSize))
      (okOnly fun events => consumer.BeforeRound events) := by
    apply outline_read (fun _ => rfl)
    rintro w hinv ⟨hassigned, huncommitted⟩
    refine ⟨?_, ?_, ?_⟩
    · intro event hevent
      obtain ⟨hmem, hpending⟩ := mem_pendingEvents.mp (List.mem_of_mem_take hevent)
      refine ⟨hmem, hpending, ?_⟩
      rw [hassigned]
      rfl
    · have htake := List.take_sublist consumer.batchSize (pendingEvents consumer.topicName w.outbox)
      exact (pendingEvents_ids_nodup consumer.topicName w.outbox).sublist (htake.map _)
    · intro event hevent _ hpending
      rw [hassigned] at hpending
      exact hinv.clean huncommitted event hevent hpending
  refine hselect.bindOk (fun events => ?_)
  have hloop : Outline (consumer.ingestionRely documents) () (consumer.BeforeRound events)
      (Prog.foldEach events 0 fun processed event =>
        consumer.ingestEvent (clock event.id) processed event)
      (okOnly fun _ => consumer.BeforeRound []) := by
    refine Outline.foldRest (fun rest _ => consumer.BeforeRound rest) ?_ (fun _ _ _ h => h)
    intro event rest processed
    refine (ingestEvent_outline (clock event.id) processed event rest).post ?_
    intro r w _ h
    cases r <;> exact h
  refine hloop.bindOk (fun _ => ?_)
  have hcommit : Outline (consumer.ingestionRely documents) () (consumer.BeforeRound [])
      (Prog.perform IngestionOp.commit) (okOnly fun _ _ => True) := by
    apply outline_perform
    intro w hinv h _
    refine ⟨⟨?_, ?_, hinv.recorded, ?_⟩, trivial⟩
    · exact (chunksIn_mapRows w.assigned w.documents).trans hinv.chunks
    · intro event hevent event' hevent' htopic htopic' id hid hid'
      obtain ⟨old, hold, rfl⟩ := (Table.mem_mapRows (eventAfter_id _)).mp hevent
      obtain ⟨old', hold', rfl⟩ := (Table.mem_mapRows (eventAfter_id _)).mp hevent'
      rw [eventAfter_topic] at htopic htopic'
      rw [documentOf_eventAfter] at hid hid'
      rw [eventAfter_id, eventAfter_id]
      exact hinv.oneEvent old hold old' hold' htopic htopic' id hid hid'
    · intro _ event hevent hpending id hid
      obtain ⟨old, hold, rfl⟩ := (Table.mem_mapRows (eventAfter_id _)).mp hevent
      rw [documentOf_eventAfter] at hid
      exact h.unseen old hold nofun hpending id hid
  exact hcommit.bindOk (fun _ => Outline.pure (fun _ _ h => h))

/-- A run leaves the session closed and nothing uncommitted. -/
theorem ingestOnce_outline (clock : Int → DateTime) :
    Outline (consumer.ingestionRely documents) () Idle (consumer.ingestOnce clock)
      (fun _ => Idle) := by
  have hbatch :
      Outline (consumer.ingestionRely documents) () Idle (consumer.ingestBatch clock).attempt
      (fun r _ => ∃ result, r = .ok result) :=
    (ingestBatch_outline clock).attempt (fun result _ _ _ => ⟨result, rfl⟩)
  have hclose : ∀ P, Outline (consumer.ingestionRely documents) () P
      (Prog.perform IngestionOp.close) (fun _ => Idle) := by
    intro P
    refine Outline.perform (fun _ => stable_unit _) ?_
    intro w delivery r w' hinv _ hcond hexec
    have hw' : w' = { w with assigned := [], uncommitted := 0 } := by
      cases delivery <;> cases hexec <;> rfl
    subst hw'
    refine ⟨⟨hinv.chunks, hinv.oneEvent, hinv.recorded, ?_⟩, trivial, rfl, rfl⟩
    -- the run has stored nothing since its last commit
    exact fun _ => hinv.clean hcond
  refine hbatch.bind (fun result => ?_) (fun e w _ h => by obtain ⟨_, heq⟩ := h; cases heq)
  refine (hclose _).bind (fun _ => ?_) (fun _ _ _ h => h)
  exact Outline.ofExcept (fun _ _ h => h)

theorem ingestRuns_outline (clocks : List (Int → DateTime)) :
    Outline (consumer.ingestionRely documents) () Idle (consumer.ingestRuns clocks)
      (fun _ => Idle) := by
  refine Outline.forEach ?_ (fun _ _ h => h)
  intro clock _
  have hrun : Outline (consumer.ingestionRely documents) () Idle (consumer.ingestOnce clock).attempt
      (fun _ => Idle) :=
    (ingestOnce_outline clock).attempt (fun _ _ _ h => h)
  refine hrun.bind (fun _ => Outline.pure (fun _ _ h => h)) (fun _ _ _ h => h)

theorem Uploaded.covered {w : IngestionWorld} (h : consumer.Uploaded w)
    (clocks : List (Int → DateTime)) :
    Covered (consumer.ingestionRely w.documents) (fun _ _ => Idle)
      ⟨w, fun _ => consumer.ingestRuns clocks⟩ := by
  refine ⟨⟨rfl, h.oneEvent, ?_, ?_⟩, ?_⟩
  · intro documentId
    rw [h.noChunks documentId]
    exact List.nil_prefix
  · exact fun _ _ _ _ documentId _ => h.noChunks documentId
  · intro i
    exact ⟨Idle, stable_unit Idle, ⟨h.assigned, h.uncommitted⟩, ingestRuns_outline clocks⟩

/-- In any sequence of runs that end only after they have committed what they stored, no chunk is
stored twice. -/
theorem recordedOnce (consumer : DocumentIngestionConsumer) {w : IngestionWorld}
    (hstart : consumer.Uploaded w) (clocks : List (Int → DateTime))
    {c : Config Unit PyError IngestionOp IngestionOp.Reply IngestionWorld Unit}
    (hsteps : Steps consumer.exec endsCommitted ⟨w, fun _ => consumer.ingestRuns clocks⟩ c) :
    consumer.RecordedOnce w.documents c.world :=
  ((hstart.covered clocks).steps hsteps).inv.recorded

end DocumentIngestionConsumer

/-! ## A commit that fails -/

/-- A handbook of one chunk, in a batch of ten. -/
def handbookConsumer : DocumentIngestionConsumer where
  py := .ascii
  download _ _ := .ok "Maintenance reports.".toUTF8
  textExtractor := ⟨fun _ => .ok [], fun _ => .ok []⟩
  chunker := {
    chunkTokens := 50
    overlapTokens := 10
    encode := fun text => .ok (text.toList.map Char.toNat)
    decode := fun tokens => String.ofList (tokens.map Char.ofNat) }
  batchSize := 10
  topicName := "document.uploaded.v1"

def handbook : DocumentRecord where
  id := .ofNat 1
  contentType := "text/plain"
  blobContainer := "documents"
  blobName := "uploads/handbook.txt"
  status := "queued"
  siteCode := none
  ingestionError := none

def handbookUploaded : IngestionWorld where
  outbox := ⟨[⟨1, "document.uploaded.v1", handbook.id.str, none⟩], by decide⟩
  documents := ⟨[handbook], by decide⟩
  memories := []
  assigned := []
  uncommitted := 0

namespace DocumentIngestionConsumer

theorem handbook_uploaded : handbookConsumer.Uploaded handbookUploaded := by
  refine ⟨?_, fun _ => rfl, rfl, rfl⟩
  intro event hevent event' hevent' _ _ _ _ _
  rw [List.mem_singleton.mp hevent, List.mem_singleton.mp hevent']

/-- Two runs over the handbook. -/
def handbookRuns : Config Unit PyError IngestionOp IngestionOp.Reply IngestionWorld Unit :=
  ⟨handbookUploaded, fun _ => handbookConsumer.ingestRuns [fun _ => 0, fun _ => 0]⟩

/-- The handbook's chunk is stored as often as in a given number of records. -/
def storedTimes (n : Nat)
    (c : Config Unit PyError IngestionOp IngestionOp.Reply IngestionWorld Unit) : Bool :=
  (c.world.storedChunks handbook.id).length = n ∧
    (handbookConsumer.chunksIn handbookUploaded.documents handbook.id).length = 1

/-- The first run loses its connection at the commit, and the second stores the chunk again. -/
theorem handbook_storedTwice :
    (runSchedule handbookConsumer.exec always
      (List.replicate 10 ((), .arrives) ++ [((), .lost (PyError.runtimeError "connection lost"))] ++
        List.replicate 8 ((), .arrives)) handbookRuns).any (storedTimes 2) = true := by
  decide +kernel

instance (i : Unit) (op : IngestionOp) (w : IngestionWorld) : Decidable (endsCommitted i op w) :=
  match op with
  | .close => inferInstanceAs (Decidable (w.uncommitted = 0))
  | .selectEvents _ _ | .getDocument _ | .assign _ | .download _ _ | .extract _ _ | .chunk _
  | .record _ | .commit => .isTrue trivial

theorem handbook_storedOnce :
    (runSchedule handbookConsumer.exec endsCommitted (List.replicate 14 ((), .arrives))
      handbookRuns).any (storedTimes 1) = true := by
  decide +kernel

theorem recordedOnce_handbook :
    ∃ c : Config Unit PyError IngestionOp IngestionOp.Reply IngestionWorld Unit,
    runSchedule handbookConsumer.exec endsCommitted (List.replicate 14 ((), .arrives))
      handbookRuns =
      some c ∧
    handbookConsumer.RecordedOnce handbookUploaded.documents c.world ∧
    (c.world.storedChunks handbook.id).length = 1 := by
  obtain ⟨c, hrun, hstored⟩ := (Option.any_eq_true _ _).mp handbook_storedOnce
  have honce := handbookConsumer.recordedOnce handbook_uploaded _ (steps_of_runSchedule hrun)
  exact ⟨c, hrun, honce, (of_decide_eq_true hstored).1⟩

theorem not_recordedOnce : ¬ ∀ (consumer : DocumentIngestionConsumer) (w : IngestionWorld),
    consumer.Uploaded w → ∀ (clocks : List (Int → DateTime))
      (c : Config Unit PyError IngestionOp IngestionOp.Reply IngestionWorld Unit),
      Steps consumer.exec always ⟨w, fun _ => consumer.ingestRuns clocks⟩ c →
        consumer.RecordedOnce w.documents c.world := by
  intro h
  obtain ⟨c, hrun, hstored⟩ := (Option.any_eq_true _ _).mp handbook_storedTwice
  have honce :=
    h handbookConsumer handbookUploaded handbook_uploaded _ c (steps_of_runSchedule hrun)
  obtain ⟨htwice, hchunks⟩ := of_decide_eq_true hstored
  have hle := (honce handbook.id).length_le
  change (handbookConsumer.chunksIn handbookUploaded.documents handbook.id).length = 1 at hchunks
  omega

end DocumentIngestionConsumer

end HotAirBalloon.Documents
