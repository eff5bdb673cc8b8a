import HotAirBalloon.Documents.PipelinePublishers

/-!
# The rounds of a consumer

What a run of a consumer knows of the events that it holds (`InRun`): for each round that is over,
what it has stored and assigned, and for those to come, that nothing is stored yet. The steps of a
run keep the tables as `PipelineInv` says; so does the commit, which writes what all the rounds have
assigned.
-/

namespace HotAirBalloon.Pipeline

open Python Library Memory Outbox Uploads
open Documents
    (Assignment DocumentRecord IngestionOp DocumentIngestionConsumer documentAfter eventAfter
  pendingEvents)

variable {ι : Type}

/-! ## What a run of a consumer assigns -/

/-- What a round assigns, once it is over: to which event and document, and the error, if any. -/
structure Round where
  event : Documents.OutboxRecord
  documentId : Uuid
  now : DateTime
  error : Option String

/-- The status that a round leaves. -/
def Round.status (round : Round) : String := if round.error.isNone then "indexed" else "failed"

def Round.assignments (round : Round) : List Assignment :=
  [.status round.documentId "ingesting", .status round.documentId round.status,
    .ingestionError round.documentId round.error, .ingestedAt round.event.id round.now]

theorem documentAfter_append (assigned assigned' : List Assignment) (document : DocumentRecord) :
    documentAfter (assigned ++ assigned') document =
      documentAfter assigned' (documentAfter assigned document) :=
  List.foldl_append

theorem eventAfter_append (assigned assigned' : List Assignment) (event : Documents.OutboxRecord) :
    eventAfter (assigned ++ assigned') event = eventAfter assigned' (eventAfter assigned event) :=
  List.foldl_append

namespace Round

variable {round : Round} {document : DocumentRecord} {event : Documents.OutboxRecord}

theorem documentAfter_eq (h : document.id = round.documentId) :
    documentAfter round.assignments document =
    { document with status := round.status, ingestionError := round.error } := by
  simp [assignments, documentAfter, Assignment.onDocument, h]

theorem documentAfter_of_ne (h : document.id ≠ round.documentId) :
    documentAfter round.assignments document = document := by
  simp [assignments, documentAfter, Assignment.onDocument, h]

theorem eventAfter_eq (h : event.id = round.event.id) :
    eventAfter round.assignments event = { event with ingestedAt := some round.now } := by
  simp [assignments, eventAfter, Assignment.onEvent, h]

theorem eventAfter_of_ne (h : event.id ≠ round.event.id) :
    eventAfter round.assignments event = event := by
  simp [assignments, eventAfter, Assignment.onEvent, h]

end Round

/-- An event that no round is about is left alone. -/
theorem eventAfter_rounds_of_ne {rounds : List Round} {event : Documents.OutboxRecord}
    (h : ∀ round ∈ rounds, event.id ≠ round.event.id) :
    eventAfter (rounds.flatMap Round.assignments) event = event := by
  induction rounds with
  | nil => rfl
  | cons round rest ih =>
    rw [List.flatMap_cons, eventAfter_append, Round.eventAfter_of_ne (h round List.mem_cons_self)]
    exact ih (fun round' hround' => h round' (List.mem_cons_of_mem round hround'))

/-- A marked event stays marked. -/
theorem eventAfter_rounds_marked {rounds : List Round} (event : Documents.OutboxRecord)
    (h : event.ingestedAt ≠ none) :
    (eventAfter (rounds.flatMap Round.assignments) event).ingestedAt ≠ none := by
  induction rounds generalizing event with
  | nil => exact h
  | cons round rest ih =>
    rw [List.flatMap_cons, eventAfter_append]
    apply ih
    by_cases hid : event.id = round.event.id
    · rw [Round.eventAfter_eq hid]
      exact Option.some_ne_none _
    · rwa [Round.eventAfter_of_ne hid]

/-- An event that a round is about is marked. -/
theorem eventAfter_rounds_of_mem {rounds : List Round} {round : Round} (hround : round ∈ rounds)
    (event : Documents.OutboxRecord) (hid : event.id = round.event.id) :
    (eventAfter (rounds.flatMap Round.assignments) event).ingestedAt ≠ none := by
  induction rounds generalizing event with
  | nil => exact absurd hround List.not_mem_nil
  | cons first rest ih =>
    rw [List.flatMap_cons, eventAfter_append]
    rcases List.mem_cons.mp hround with rfl | hrest
    · apply eventAfter_rounds_marked
      rw [Round.eventAfter_eq hid]
      exact Option.some_ne_none _
    · exact ih hrest _ ((Documents.eventAfter_id _ _).trans hid)

/-- What a round has done for its document. -/
inductive Outcome (m : DocumentsModule) (unbroken : Prop) (w : PipelineWorld ι)
    (documentId : Uuid) : Option String → Prop
  | indexed {document : Document} {chunks : List String} (mem : document ∈ w.documents)
      (id_eq : document.id = documentId) (split : m.chunksOf w document = .ok chunks)
      (stored : Stored unbroken w documentId chunks) : Outcome m unbroken w documentId none
  | failed {error : String} (short : error.length ≤ 4000)
    (stored : Stored unbroken w documentId []) :
      Outcome m unbroken w documentId (some error)

/-- A pending event whose row process `i` has locked. -/
structure Held (i : ι) (event : Documents.OutboxRecord) (w : PipelineWorld ι) : Prop where
  locked : (i, event.id) ∈ w.locks
  pending : event.ingestedAt = none
  row : ∃ row ∈ w.outbox, eventOf row = event

/-- In a run of process `i`: the events that it has taken, the rounds that are over, what the
present round has assigned, and the events whose rounds are still to come. -/
structure InRun (m : DocumentsModule) (unbroken : Prop) (i : ι)
    (batch : List Documents.OutboxRecord)
    (rounds : List Round) (current : List Assignment) (rest : List Documents.OutboxRecord)
    (w : PipelineWorld ι) : Prop where
  assigned : w.assigned i = rounds.flatMap Round.assignments ++ current
  held : ∀ event ∈ batch, Held i event w
  locks : ∀ id, (i, id) ∈ w.locks → ∃ event ∈ batch, event.id = id
  finished : ∀ round ∈ rounds, round.event ∈ batch ∧ round.event.key = round.documentId.str ∧
    Outcome m unbroken w round.documentId round.error
  untouched : ∀ event ∈ rest, event ∈ batch ∧
    ∀ id : Uuid, event.key = id.str → Stored unbroken w id []

section

variable {m : DocumentsModule} {unbroken : Prop} {i j : ι} {w w' : PipelineWorld ι}
  {event : Documents.OutboxRecord} {batch rest : List Documents.OutboxRecord} {rounds : List Round}
  {current : List Assignment}

/-- What is stored for a held event stays as it is. -/
theorem Held.storedChunks (h : Held i event w) (hj : j ≠ i) (hgrows : Grows j w w') {id : Uuid}
    (hkey : event.key = id.str) : w'.storedChunks id = w.storedChunks id := by
  obtain ⟨row, hrow, rfl⟩ := h.row
  exact (hgrows.held i hj.symm row hrow h.locked).2 id hkey

theorem Held.grows (h : Held i event w) (hj : j ≠ i) (hgrows : Grows j w w') : Held i event w' := by
  obtain ⟨row, hrow, rfl⟩ := h.row
  exact ⟨(hgrows.locks i hj.symm _).mpr h.locked, h.pending,
    (hgrows.held i hj.symm row hrow h.locked).1⟩

theorem Outcome.grows {documentId : Uuid} {error : Option String}
    (h : Outcome m unbroken w documentId error)
    {k : ι} (hgrows : Grows k w w')
    (hsame : w'.storedChunks documentId = w.storedChunks documentId) :
    Outcome m unbroken w' documentId error := by
  cases h with
  | @indexed document chunks hmem hid hsplit hstored =>
    obtain ⟨status, hmem'⟩ := hgrows.documents document hmem
    exact .indexed hmem' hid (chunksOf_mono document hgrows.blobs hsplit) (hstored.congr hsame)
  | failed hshort hstored => exact .failed hshort (hstored.congr hsame)

theorem InRun.grows (h : InRun m unbroken i batch rounds current rest w) (hj : j ≠ i)
    (hgrows : Grows j w w') : InRun m unbroken i batch rounds current rest w' where
  assigned := (hgrows.assigned i hj.symm).trans h.assigned
  held event hevent := (h.held event hevent).grows hj hgrows
  locks id hid := h.locks id ((hgrows.locks i hj.symm id).mp hid)
  finished round hround := by
    obtain ⟨hmem, hkey, houtcome⟩ := h.finished round hround
    exact ⟨hmem, hkey, houtcome.grows hgrows ((h.held _ hmem).storedChunks hj hgrows hkey)⟩
  untouched event hevent := by
    obtain ⟨hmem, hstored⟩ := h.untouched event hevent
    exact ⟨hmem, fun id hkey =>
      (hstored id hkey).congr ((h.held _ hmem).storedChunks hj hgrows hkey)⟩

/-! ## The tables under the calls of a consumer -/

/-- Locks, assignments and counters, with the tables as they are. -/
theorem PipelineInv.sameTables (h : PipelineInv m unbroken w) {locks : List (ι × Int)}
    (assigned : ι → List Assignment) {uncommitted : ι → Nat}
    (hexclusive : ∀ j k id, (j, id) ∈ locks → (k, id) ∈ locks → j = k)
    (hfree : unbroken → ∀ id, (∀ j, uncommitted j ≠ 0 → (j, id) ∉ locks) →
      ∀ j, w.uncommitted j ≠ 0 → (j, id) ∉ w.locks) :
    PipelineInv m unbroken
      { w with locks := locks, assigned := assigned, uncommitted := uncommitted } where
  keysUnique := h.keysUnique
  blobs := h.blobs
  announced := h.announced
  named := h.named
  once := h.once
  settled document hdocument row hrow hkey := (h.settled document hdocument row hrow hkey).congr
    { w with locks := locks, assigned := assigned, uncommitted := uncommitted }
      (fun _ hblob => hblob)
    (fun _ => rfl) document.status
  noError := h.noError
  memories := h.memories
  sound := h.sound
  exclusive := hexclusive
  clean hunbroken document hdocument row hrow hkey hpending hidle :=
    h.clean hunbroken document hdocument row hrow hkey hpending (hfree hunbroken row.id hidle)

/-- The rows of two events with one key are the same. -/
theorem PipelineInv.event_eq (h : PipelineInv m unbroken w) {event event' : Documents.OutboxRecord}
    (hrow : ∃ row ∈ w.outbox, eventOf row = event) (hrow' : ∃ row ∈ w.outbox, eventOf row = event')
    (hkey : event.key = event'.key) : event = event' := by
  obtain ⟨row, hrow, rfl⟩ := hrow
  obtain ⟨row', hrow', rfl⟩ := hrow'
  rw [h.once row hrow row' hrow' hkey]

theorem storedChunks_record (w : PipelineWorld ι) (document : DocumentRecord) (chunk : String)
    (uncommitted : ι → Nat) (id : Uuid) :
    PipelineWorld.storedChunks { w with
      memories := w.memories ++ [DocumentIngestionConsumer.chunkMemory document chunk]
      uncommitted := uncommitted } id =
      w.storedChunks id ++ if document.id = id then [chunk] else [] := by
  unfold PipelineWorld.storedChunks
  rw [List.filter_append, List.map_append]
  congr 1
  by_cases hid : document.id = id
  · simp [DocumentIngestionConsumer.chunkMemory, hid]
  · simp [DocumentIngestionConsumer.chunkMemory, hid]

/-- A document, as a session has loaded it. -/
def Loaded (document : DocumentRecord) (w : PipelineWorld ι) : Prop :=
  ∃ stored ∈ w.documents, stored.id = document.id ∧ stored.contentType = document.contentType ∧
    stored.blobContainer = document.blobContainer ∧ stored.blobName = document.blobName ∧
    stored.siteCode = document.siteCode

theorem Loaded.grows {document : DocumentRecord} (h : Loaded document w) (hgrows : Grows j w w') :
    Loaded document w' := by
  obtain ⟨stored, hmem, hfields⟩ := h
  obtain ⟨status, hmem'⟩ := hgrows.documents stored hmem
  exact ⟨_, hmem', hfields⟩

end

section

variable [DecidableEq ι] {m : DocumentsModule} {unbroken : Prop} {i : ι} {w w' : PipelineWorld ι}
  {event : Documents.OutboxRecord} {batch rest : List Documents.OutboxRecord} {rounds : List Round}
  {current : List Assignment}

/-- Storing a chunk of a held event's document. -/
theorem PipelineInv.record (h : PipelineInv m unbroken w) (hheld : Held i event w)
    {document : DocumentRecord}
    (hkey : event.key = document.id.str) (hloaded : Loaded document w) {chunk : String}
    {chunks : List String}
    (hchunks : ∀ stored ∈ w.documents, stored.id = document.id → m.chunksOf w stored = .ok chunks)
    (hchunk : chunk ∈ chunks) :
    PipelineInv m unbroken
        (m.carryOut w i (.record (DocumentIngestionConsumer.chunkMemory document chunk))).2 ∧
      Grows i w
        (m.carryOut w i (.record (DocumentIngestionConsumer.chunkMemory document chunk))).2 := by
  obtain ⟨row, hrow, rfl⟩ := hheld.row
  have hrowKey : row.key = document.id.str := hkey
  have hpending : row.ingestedAt = none := hheld.pending
  have hothers : ∀ id, document.id ≠ id →
      (m.carryOut w i
        (.record (DocumentIngestionConsumer.chunkMemory document chunk))).2.storedChunks id =
        w.storedChunks id := by
    intro id hne
    refine (storedChunks_record w document chunk _ id).trans ?_
    rw [if_neg hne, List.append_nil]
  have hcounted : ∀ j, w.uncommitted j ≠ 0 →
      Function.update w.uncommitted i (w.uncommitted i + 1) j ≠ 0 := by
    intro j hj
    by_cases hji : j = i
    · subst hji
      rw [Function.update_self]
      exact Nat.succ_ne_zero _
    · rwa [Function.update_of_ne hji]
  refine ⟨⟨h.keysUnique, h.blobs, h.announced, h.named, h.once, ?_, h.noError, ?_, h.sound,
    h.exclusive, ?_⟩, { Grows.refl i w with
      memories := List.prefix_append _ _
      uncommitted := fun j hj => Function.update_of_ne hj _ _
      held := ?_ }⟩
  · intro stored hstored row' hrow' hnames
    refine (h.settled stored hstored row' hrow' hnames).congr
      (m.carryOut w i (.record (DocumentIngestionConsumer.chunkMemory document chunk))).2
        (fun _ hblob => hblob)
      ?_ stored.status
    intro hmarked
    apply hothers
    -- the document of the held event has no mark
    intro heq
    apply hmarked
    rw [← heq, ← hrowKey] at hnames
    rw [h.once row' hrow' row hrow hnames]
    exact hpending
  · intro memory hmemory
    rcases List.mem_append.mp hmemory with hbefore | hnew
    · exact h.memories memory hbefore
    · obtain ⟨stored, hmem, hid, -, -, -, hsite⟩ := hloaded
      refine ⟨stored, hmem, chunks, hchunks stored hmem hid, chunk, hchunk, ?_⟩
      rw [List.mem_singleton.mp hnew]
      unfold DocumentIngestionConsumer.chunkMemory PipelineWorld.record
      dsimp only
      rw [hid, hsite]
  · intro hunbroken stored hstored row' hrow' hnames hunmarked hidle
    by_cases heq : document.id = stored.id
    · rw [← heq, ← hrowKey] at hnames
      have hsame := h.once row' hrow' row hrow hnames
      subst hsame
      refine absurd hheld.locked (hidle i ?_)
      change Function.update w.uncommitted i (w.uncommitted i + 1) i ≠ 0
      rw [Function.update_self]
      exact Nat.succ_ne_zero _
    · refine (hothers stored.id heq).trans ?_
      exact h.clean hunbroken stored hstored row' hrow' hnames hunmarked
        (fun j hj => hidle j (hcounted j hj))
  · intro j hj row' hrow' hlocked
    refine ⟨⟨row', hrow', rfl⟩, ?_⟩
    intro id hnames
    apply hothers
    rintro rfl
    rw [← hrowKey] at hnames
    rw [h.once row' hrow' row hrow hnames] at hlocked
    exact hj (h.exclusive j i row.id hlocked hheld.locked)

/-- The end of a transaction that has stored no chunks. -/
theorem PipelineInv.close (h : PipelineInv m unbroken w) (hidle : unbroken → w.uncommitted i = 0) :
    PipelineInv m unbroken (w.ended i) ∧ Grows i w (w.ended i) := by
  have hlocks : LocksMove i w.locks (w.outboxPart.release i) := locksMove_release i w.outboxPart
  refine ⟨h.sameTables _ (hlocks.exclusive h.exclusive) ?_,
    { Grows.refl i w with
      assigned := fun j hj => Function.update_of_ne hj _ _
      uncommitted := fun j hj => Function.update_of_ne hj _ _
      locks := hlocks.others }⟩
  intro hunbroken id hfree j hj hlocked
  have hji : j ≠ i := by
    rintro rfl
    exact hj (hidle hunbroken)
  apply hfree j
  · rwa [Function.update_of_ne hji]
  · exact (hlocks.others j hji id).mpr hlocked

/-- An assignment is a matter of the session alone. -/
theorem PipelineInv.assign (h : PipelineInv m unbroken w) (assignment : Assignment) :
    PipelineInv m unbroken (m.carryOut w i (.assign assignment)).2 ∧
      Grows i w (m.carryOut w i (.assign assignment)).2 :=
  ⟨h.sameTables _ h.exclusive (fun _ _ hfree => hfree),
    { Grows.refl i w with assigned := fun _ hj => Function.update_of_ne hj _ _ }⟩

/-- The events that a session takes. -/
theorem mem_taken {topic : String} {batchSize : Nat}
    (h : event ∈ (pendingEvents topic (w.freeEvents i)).take batchSize) :
    event.ingestedAt = none ∧ (∃ row ∈ w.outbox, eventOf row = event) ∧
      ∀ j, (j, event.id) ∈ w.locks → j = i := by
  have hsorted := List.mem_of_mem_take h
  unfold pendingEvents at hsorted
  rw [List.mem_mergeSort, List.mem_filter, decide_eq_true_eq] at hsorted
  obtain ⟨hfree, -, hpending⟩ := hsorted
  obtain ⟨row, hrow, rfl⟩ := List.mem_map.mp hfree
  obtain ⟨hrow, hunlocked⟩ := List.mem_filter.mp hrow
  exact ⟨hpending, ⟨row, hrow, rfl⟩, free_of_lockedByOther (by simpa using hunlocked)⟩

theorem nodup_taken {topic : String} {batchSize : Nat} :
    ((pendingEvents topic (w.freeEvents i)).take batchSize).Nodup := by
  refine List.Nodup.sublist (List.take_sublist _ _) ?_
  unfold pendingEvents
  rw [(List.mergeSort_perm _ _).nodup_iff]
  exact (List.Nodup.of_map _ (w.freeEvents i).keys_nodup).filter _

/-- Before a run. -/
structure Idle (i : ι) (w : PipelineWorld ι) : Prop where
  assigned : w.assigned i = []
  uncommitted : w.uncommitted i = 0
  locks : ∀ id, (i, id) ∉ w.locks

theorem PipelineInv.select (h : PipelineInv m unbroken w) (hidle : Idle i w) (topic : String)
    (batchSize : Nat) : PipelineInv m unbroken (m.carryOut w i (.selectEvents topic batchSize)).2 ∧
      Grows i w (m.carryOut w i (.selectEvents topic batchSize)).2 ∧
      okOnly (fun batch w => batch.Nodup ∧ InRun m unbroken i batch [] [] batch w)
        (m.carryOut w i (.selectEvents topic batchSize)).1
        (m.carryOut w i (.selectEvents topic batchSize)).2 := by
  let taken := (pendingEvents topic (w.freeEvents i)).take batchSize
  have hlocksEq : w.locks ++ taken.map (fun event => (i, event.id)) =
      w.locks ++ (taken.map (·.id)).map (fun id => (i, id)) := by
    rw [List.map_map]
    rfl
  have hlocks : LocksMove i w.locks (w.locks ++ taken.map (fun event => (i, event.id))) := by
    rw [hlocksEq]
    refine locksMove_append (o := w.outboxPart) ?_
    intro id hid
    obtain ⟨event, hevent, rfl⟩ := List.mem_map.mp hid
    exact (mem_taken hevent).2.2
  refine ⟨h.sameTables _ (hlocks.exclusive h.exclusive) ?_,
    { Grows.refl i w with locks := hlocks.others }, nodup_taken, ?_⟩
  · intro _ id hfree j hj hlocked
    exact hfree j hj (List.mem_append_left _ hlocked)
  · refine ⟨hidle.assigned, ?_, ?_, fun _ hround => absurd hround List.not_mem_nil, ?_⟩
    · intro event hevent
      obtain ⟨hpending, hrow, -⟩ := mem_taken hevent
      exact ⟨List.mem_append_right _ (List.mem_map.mpr ⟨event, hevent, rfl⟩), hpending, hrow⟩
    · intro id hid
      rcases List.mem_append.mp hid with hbefore | hnew
      · exact absurd hbefore (hidle.locks id)
      · obtain ⟨event, hevent, heq⟩ := List.mem_map.mp hnew
        exact ⟨event, hevent, congrArg Prod.snd heq⟩
    · intro event hevent
      obtain ⟨hpending, ⟨row, hrow, rfl⟩, hfree⟩ := mem_taken hevent
      refine ⟨hevent, fun id hkey => ⟨List.nil_sublist _, ?_⟩⟩
      intro hunbroken
      obtain ⟨document, hdocument, call, hmessage⟩ := h.named row hrow
      have hnamed : row.key = document.id.str := congrArg OutboxMessage.key hmessage
      have hid : document.id = id := Uuid.str_injective (hnamed.symm.trans hkey)
      rw [← hid]
      refine h.clean hunbroken document hdocument row hrow hnamed hpending ?_
      intro j hj hlocked
      have hji := hfree j hlocked
      subst hji
      exact hj hidle.uncommitted

end

/-! ## The commit of a run -/

section

variable {m : DocumentsModule} {unbroken : Prop} {i : ι} {w : PipelineWorld ι}
  {batch rest : List Documents.OutboxRecord} {rounds : List Round} {current : List Assignment}

/-- The round that is about the event of a document is about the document. -/
theorem PipelineInv.round_names (h : PipelineInv m unbroken w)
    (hrun : InRun m unbroken i batch rounds current rest w) {round : Round}
    (hround : round ∈ rounds)
    {document : Document} {row : OutboxRecord} (hrow : row ∈ w.outbox)
    (hkey : row.key = document.id.str) :
    row.id = round.event.id ↔ document.id = round.documentId := by
  obtain ⟨hmem, hnames, -⟩ := hrun.finished round hround
  obtain ⟨row', hrow', heq⟩ := (hrun.held _ hmem).row
  rw [← heq] at hnames ⊢
  constructor
  · intro hid
    have hsame : row = row' := Table.eq_of_key_eq hrow hrow' hid
    rw [hsame] at hkey
    exact Uuid.str_injective (hkey.symm.trans hnames)
  · intro hid
    have hsame : row = row' := h.once row hrow row' hrow' (hkey.trans (hid ▸ hnames.symm))
    rw [hsame]
    rfl

/-- What a run writes is settled. -/
theorem PipelineInv.settled_rounds (h : PipelineInv m unbroken w)
    (hrun : InRun m unbroken i batch rounds current rest w) {document : Document}
    (hdocument : document ∈ w.documents) {row : OutboxRecord} (hrow : row ∈ w.outbox)
    (hkey : row.key = document.id.str) :
    Settled m unbroken w document
      (documentAfter (rounds.flatMap Round.assignments) (w.record document)).status
      (documentAfter (rounds.flatMap Round.assignments) (w.record document)).ingestionError
      (eventAfter (rounds.flatMap Round.assignments) (eventOf row)).ingestedAt := by
  -- round by round, over what the rounds before have left
  have hsettles : ∀ (later : List Round) (record : DocumentRecord) (event : Documents.OutboxRecord),
      (∀ round ∈ later, round ∈ rounds) → record.id = document.id → event.id = row.id →
      Settled m unbroken w document record.status record.ingestionError event.ingestedAt →
      Settled m unbroken w document (documentAfter (later.flatMap Round.assignments) record).status
        (documentAfter (later.flatMap Round.assignments) record).ingestionError
        (eventAfter (later.flatMap Round.assignments) event).ingestedAt := by
    intro later
    induction later with
    | nil => exact fun _ _ _ _ _ hsettled => hsettled
    | cons round later ih =>
      intro record event hlater hrecord hevent hsettled
      have hround := hlater round List.mem_cons_self
      have hnames := h.round_names hrun hround hrow hkey
      rw [List.flatMap_cons, documentAfter_append, eventAfter_append]
      refine ih _ _ (fun other hother => hlater other (List.mem_cons_of_mem round hother))
        ((Documents.documentAfter_id _ _).trans hrecord)
          ((Documents.eventAfter_id _ _).trans hevent) ?_
      by_cases hid : document.id = round.documentId
      · rw [Round.documentAfter_eq (hrecord.trans hid),
          Round.eventAfter_eq (hevent.trans (hnames.mpr hid))]
        obtain ⟨-, -, houtcome⟩ := hrun.finished round hround
        unfold Round.status
        dsimp only
        generalize round.error = error at houtcome
        cases houtcome with
        | @indexed other chunks hother hid' hsplit hstored =>
          have hsame : other = document := Table.eq_of_key_eq hother hdocument (hid'.trans hid.symm)
          rw [hsame] at hsplit
          rw [← hid] at hstored
          exact .indexed hsplit hstored
        | failed hshort hstored =>
          rw [← hid] at hstored
          exact .failed hshort hstored
      · rw [Round.documentAfter_of_ne (fun heq => hid (hrecord.symm.trans heq)),
          Round.eventAfter_of_ne (fun heq => hid (hnames.mp (hevent.symm.trans heq)))]
        exact hsettled
  exact hsettles rounds (w.record document) (eventOf row) (fun _ hround => hround) rfl rfl
    (h.settled document hdocument row hrow hkey)

/-- What the commit of a run that has been through its batch leaves pending is not the run's. -/
theorem InRun.pending_left (hrun : InRun m unbroken i batch rounds [] [] w)
    (hbatch : batch = rounds.map (·.event)) {row : OutboxRecord}
    (hpending : (w.rowWritten i row).ingestedAt = none) :
    row.ingestedAt = none ∧ (i, row.id) ∉ w.locks := by
  have hafter :
      (eventAfter (rounds.flatMap Round.assignments) (eventOf row)).ingestedAt = none := by
    rw [← List.append_nil (rounds.flatMap Round.assignments), ← hrun.assigned]
    exact hpending
  refine ⟨?_, ?_⟩
  · by_contra hne
    exact eventAfter_rounds_marked (eventOf row) hne hafter
  · intro hlocked
    obtain ⟨event, hevent, hid⟩ := hrun.locks row.id hlocked
    rw [hbatch] at hevent
    obtain ⟨round, hround, rfl⟩ := List.mem_map.mp hevent
    exact eventAfter_rounds_of_mem hround (eventOf row) hid.symm hafter

/-- A row that another session has locked is written as it is. -/
theorem InRun.eventOf_rowWritten (hrun : InRun m unbroken i batch rounds [] [] w)
    (h : PipelineInv m unbroken w) {j : ι} (hj : j ≠ i) {row : OutboxRecord}
    (hlocked : (j, row.id) ∈ w.locks) : eventOf (w.rowWritten i row) = eventOf row := by
  have hsame : eventAfter (w.assigned i) (eventOf row) = eventOf row := by
    rw [hrun.assigned, List.append_nil]
    refine eventAfter_rounds_of_ne ?_
    intro round hround hid
    have hown := (hrun.held _ (hrun.finished round hround).1).locked
    rw [← hid] at hown
    exact hj (h.exclusive j i row.id hlocked hown)
  change (⟨row.id, row.topic, row.key, (eventAfter (w.assigned i) (eventOf row)).ingestedAt⟩ :
    Documents.OutboxRecord) = eventOf row
  rw [hsame]
  rfl

/-- What is written at the end of a run. -/
theorem PipelineInv.written (h : PipelineInv m unbroken w)
    (hrun : InRun m unbroken i batch rounds [] [] w) :
    ∀ document ∈ (w.written i).documents, ∀ row ∈ (w.written i).outbox, row.key = document.id.str →
      Settled m unbroken (w.written i) document document.status
        ((w.written i).ingestionErrors document.id)
        row.ingestedAt := by
  intro document hdocument row hrow hnames
  obtain ⟨old, hold, rfl⟩ := PipelineWorld.mem_documents_written.mp hdocument
  obtain ⟨before, hbefore, rfl⟩ := PipelineWorld.mem_outbox_written.mp hrow
  have hsettled := h.settled_rounds hrun hold hbefore hnames
  rw [← List.append_nil (rounds.flatMap Round.assignments), ← hrun.assigned] at hsettled
  have hwritten := hsettled.congr (w.written i) (fun _ hblob => hblob) (fun _ => rfl)
    (w.documentWritten i old).status
  rw [← PipelineWorld.ingestionErrors_written hold] at hwritten
  exact hwritten

variable [DecidableEq ι]

/-- A run that has been through its whole batch commits. -/
theorem PipelineInv.commit (h : PipelineInv m unbroken w)
    (hrun : InRun m unbroken i batch rounds [] [] w) (hbatch : batch = rounds.map (·.event)) :
    PipelineInv m unbroken (m.carryOut w i .commit).2 ∧ Grows i w (m.carryOut w i .commit).2 := by
  have hlocks : LocksMove i w.locks (w.outboxPart.release i) := locksMove_release i w.outboxPart
  refine ⟨⟨?_, ?_, ?_, ?_, ?_, ?_, ?_, ?_, ?_, hlocks.exclusive h.exclusive, ?_⟩, ?_⟩
  · intro document hdocument document' hdocument' key hkey hkey'
    obtain ⟨old, hold, rfl⟩ := PipelineWorld.mem_documents_written.mp hdocument
    obtain ⟨old', hold', rfl⟩ := PipelineWorld.mem_documents_written.mp hdocument'
    rw [h.keysUnique old hold old' hold' key hkey hkey']
  · intro document hdocument
    obtain ⟨old, hold, rfl⟩ := PipelineWorld.mem_documents_written.mp hdocument
    obtain ⟨blob, hblob, hof⟩ := h.blobs old hold
    exact ⟨blob, hblob, hof.container, hof.name, hof.size, hof.sha256⟩
  · intro document hdocument
    obtain ⟨old, hold, rfl⟩ := PipelineWorld.mem_documents_written.mp hdocument
    obtain ⟨row, hrow, hnames⟩ := h.announced old hold
    exact ⟨w.rowWritten i row, PipelineWorld.mem_outbox_written.mpr ⟨row, hrow, rfl⟩, hnames⟩
  · intro row hrow
    obtain ⟨old, hold, rfl⟩ := PipelineWorld.mem_outbox_written.mp hrow
    obtain ⟨document, hdocument, call, hmessage⟩ := h.named old hold
    exact ⟨w.documentWritten i document,
      PipelineWorld.mem_documents_written.mpr ⟨document, hdocument, rfl⟩, call, hmessage⟩
  · intro row hrow row' hrow' hsame
    obtain ⟨old, hold, rfl⟩ := PipelineWorld.mem_outbox_written.mp hrow
    obtain ⟨old', hold', rfl⟩ := PipelineWorld.mem_outbox_written.mp hrow'
    rw [h.once old hold old' hold' hsame]
  · intro document hdocument row hrow hnames
    exact (h.written hrun document hdocument row hrow hnames).congr (m.carryOut w i .commit).2
      (fun _ hblob => hblob) (fun _ => rfl) document.status
  · intro id hnone
    have hfresh : ∀ document ∈ w.documents, document.id ≠ id := fun document hdocument =>
      hnone (w.documentWritten i document)
        (PipelineWorld.mem_documents_written.mpr ⟨document, hdocument, rfl⟩)
    exact (PipelineWorld.ingestionErrors_written_of_forall_ne hfresh).trans (h.noError id hfresh)
  · intro memory hmemory
    obtain ⟨document, hdocument, chunks, hchunks, hchunk⟩ := h.memories memory hmemory
    exact ⟨w.documentWritten i document,
      PipelineWorld.mem_documents_written.mpr ⟨document, hdocument, rfl⟩, chunks, hchunks, hchunk⟩
  · intro row hrow
    obtain ⟨old, hold, rfl⟩ := PipelineWorld.mem_outbox_written.mp hrow
    have hsound := h.sound old hold
    exact ⟨hsound.acknowledged, hsound.retries, hsound.lastError⟩
  · intro hunbroken document hdocument row hrow hnames hpending hidle
    obtain ⟨old, hold, rfl⟩ := PipelineWorld.mem_documents_written.mp hdocument
    obtain ⟨before, hbefore, rfl⟩ := PipelineWorld.mem_outbox_written.mp hrow
    obtain ⟨hunmarked, hunlocked⟩ := hrun.pending_left hbatch hpending
    refine h.clean hunbroken old hold before hbefore hnames hunmarked ?_
    intro j hj hlocked
    have hji : j ≠ i := by
      rintro rfl
      exact hunlocked hlocked
    apply hidle j
    · change Function.update w.uncommitted i 0 j ≠ 0
      rwa [Function.update_of_ne hji]
    · exact (hlocks.others j hji before.id).mpr hlocked
  · refine ⟨⟨?_, ?_, fun _ hblob => hblob, List.prefix_refl _, fun _ hentry => hentry⟩,
      fun j hj => Function.update_of_ne hj _ _, fun j hj =>
        Function.update_of_ne hj _ _, hlocks.others, ?_⟩
    · intro document hdocument
      exact ⟨_, PipelineWorld.mem_documents_written.mpr ⟨document, hdocument, rfl⟩⟩
    · intro row hrow
      exact ⟨w.rowWritten i row, PipelineWorld.mem_outbox_written.mpr ⟨row, hrow, rfl⟩, rfl, rfl⟩
    · intro j hj row hrow hlocked
      exact ⟨⟨w.rowWritten i row, PipelineWorld.mem_outbox_written.mpr ⟨row, hrow, rfl⟩,
        hrun.eventOf_rowWritten h hj hlocked⟩, fun _ _ => rfl⟩

end

end HotAirBalloon.Pipeline
