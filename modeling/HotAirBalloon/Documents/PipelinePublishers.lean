import HotAirBalloon.Documents.PipelineInvariant

/-!
# The publishers of the pipeline

A publisher marks only rows that it holds, with marks that its own calls justify, while uploads add
rows and consumers mark others.
-/

namespace HotAirBalloon.Pipeline

open Python Library Memory Outbox Uploads
open Documents
    (Assignment DocumentRecord IngestionOp DocumentIngestionConsumer documentAfter eventAfter
  pendingEvents)

variable {ι : Type}

/-! ## A publisher among others -/

section

variable {m : DocumentsModule} {unbroken : Prop} {i : ι} {w w' : PipelineWorld ι}

/-- Marks change no column that a consumer reads. -/
theorem eventOf_marked (marks : List Mark) (row : OutboxRecord) :
    eventOf (marked marks row) = eventOf row := by
  have hmark : ∀ (mark : Mark) (row : OutboxRecord), eventOf (mark.onRow row) = eventOf row := by
    intro mark row
    unfold Mark.onRow
    split
    · cases mark <;> rfl
    · rfl
  induction marks generalizing row with
  | nil => rfl
  | cons mark rest ih => exact (ih (mark.onRow row)).trans (hmark mark row)

/-- Rows whose publishing goes on. -/
theorem PipelineInv.published (h : PipelineInv m unbroken w) {f : OutboxRecord → OutboxRecord}
    (hid : ∀ row, (f row).id = row.id) (hevent : ∀ row, eventOf (f row) = eventOf row)
    (hmessage : ∀ row, (f row).message = row.message) {locks : List (ι × Int)}
    {log : List (ι × OutboxEvent)}
    (hlog : w.log ⊆ log)
    (hsound : ∀ row ∈ w.outbox, RowSound m.outboxPublisher.maxRetries log (f row))
    (hlocks : LocksMove i w.locks locks) (hidle : w.uncommitted i = 0) :
    PipelineInv m unbroken { w with outbox := w.outbox.mapRows f hid, locks := locks, log := log } ∧
      Grows i w { w with outbox := w.outbox.mapRows f hid, locks := locks, log := log } := by
  have hkey : ∀ row, (f row).key = row.key :=
    fun row => congrArg Documents.OutboxRecord.key (hevent row)
  have hmark : ∀ row, (f row).ingestedAt = row.ingestedAt :=
    fun row => congrArg Documents.OutboxRecord.ingestedAt (hevent row)
  have hmem : ∀ {row}, row ∈ w.outbox → f row ∈ w.outbox.mapRows f hid :=
    fun hrow => (Table.mem_mapRows hid).mpr ⟨_, hrow, rfl⟩
  refine ⟨⟨h.keysUnique, h.blobs, ?_, ?_, ?_, ?_, h.noError, h.memories, ?_,
    hlocks.exclusive h.exclusive, ?_⟩, { Grows.refl i w with
      outbox := fun row hrow => ⟨f row, hmem hrow, hid row, hmessage row⟩
      log := hlog
      locks := hlocks.others
      held := fun _ _ row hrow _ => ⟨⟨f row, hmem hrow, hevent row⟩, fun _ _ => rfl⟩ }⟩
  · intro document hdocument
    obtain ⟨row, hrow, hnames⟩ := h.announced document hdocument
    exact ⟨f row, hmem hrow, (hkey row).trans hnames⟩
  · intro row' hrow'
    obtain ⟨row, hrow, rfl⟩ := (Table.mem_mapRows hid).mp hrow'
    obtain ⟨document, hdocument, call, heq⟩ := h.named row hrow
    exact ⟨document, hdocument, call, (hmessage row).trans heq⟩
  · intro a ha b hb hsame
    obtain ⟨row, hrow, rfl⟩ := (Table.mem_mapRows hid).mp ha
    obtain ⟨row', hrow', rfl⟩ := (Table.mem_mapRows hid).mp hb
    rw [hkey, hkey] at hsame
    rw [h.once row hrow row' hrow' hsame]
  · intro document hdocument row' hrow' hnames
    obtain ⟨row, hrow, rfl⟩ := (Table.mem_mapRows hid).mp hrow'
    rw [hkey] at hnames
    rw [hmark]
    exact (h.settled document hdocument row hrow hnames).congr
      { w with outbox := w.outbox.mapRows f hid, locks := locks, log := log } (fun _ hblob => hblob)
      (fun _ => rfl) document.status
  · intro row' hrow'
    obtain ⟨row, hrow, rfl⟩ := (Table.mem_mapRows hid).mp hrow'
    exact hsound row hrow
  · intro hunbroken document hdocument row' hrow' hnames hpending hfree
    obtain ⟨row, hrow, rfl⟩ := (Table.mem_mapRows hid).mp hrow'
    rw [hkey] at hnames
    rw [hmark] at hpending
    refine h.clean hunbroken document hdocument row hrow hnames hpending ?_
    intro j hj hlocked
    have hji : j ≠ i := by
      rintro rfl
      exact hj hidle
    apply hfree j hj
    rw [hid]
    exact (hlocks.others j hji row.id).mpr hlocked

theorem justified_grows {contents contents' : List (Int × OutboxMessage)} {maxRetries : Nat}
    {log log' : List (ι × OutboxEvent)} {mark : Mark} (h : Justified contents maxRetries log mark)
    (hcontents : contents ⊆ contents') (hlog : log ⊆ log') :
    Justified contents' maxRetries log' mark := by
  cases mark with
  | published id publishedAt =>
    obtain ⟨message, hmem, hacknowledged⟩ := h
    exact ⟨message, hcontents hmem, hacknowledged.mono hlog⟩
  | failed id retryCount lastError => exact h

theorem Grows.contents (h : Grows i w w') :
    contentsOf w.outbox.rows ⊆ contentsOf w'.outbox.rows := by
  intro content hcontent
  obtain ⟨row, hrow, rfl⟩ := List.mem_map.mp hcontent
  obtain ⟨row', hrow', hid, hmessage⟩ := h.outbox row hrow
  exact List.mem_map.mpr ⟨row', hrow', by rw [hid, hmessage]⟩

/-- What a publisher knows in a batch: the rows it has taken, and the marks that it may commit. -/
structure Marking (m : DocumentsModule) (i : ι) (rows : List OutboxRecord) (marks : List Mark)
    (w : PipelineWorld ι) : Prop where
  idle : w.uncommitted i = 0
  rows : ∀ row ∈ rows, (row.id, row.message) ∈ contentsOf w.outbox.rows
  marks : ∀ mark ∈ marks,
    Justified (contentsOf w.outbox.rows) m.outboxPublisher.maxRetries w.log mark

theorem Marking.grows {j : ι} {rows : List OutboxRecord} {marks : List Mark} (hj : j ≠ i)
    (h : Marking m i rows marks w) (hgrows : Grows j w w') : Marking m i rows marks w' where
  idle := (hgrows.uncommitted i hj.symm).trans h.idle
  rows row hrow := hgrows.contents (h.rows row hrow)
  marks mark hmark := justified_grows (h.marks mark hmark) hgrows.contents hgrows.log

variable [DecidableEq ι]

theorem marking_stable (rows : List OutboxRecord) (marks : List Mark) :
    Stable (publisherRely m unbroken) i (Marking m i rows marks) :=
  fun _ _ _ hj _ _ hgrows h => h.grows hj hgrows

/-- What a call does to the locks. -/
theorem locksMove_exec {op : OutboxOp} {answer : Answer} {r : Except PyError op.Reply}
    {o o' : OutboxWorld ι}
    (h : Outbox.exec i op answer o = some (r, o')) : LocksMove i o.locks o'.locks := by
  have hcarried : LocksMove i o.locks (o.carryOut i op).2.locks := by
    cases op with
    | selectForUpdate maxRetries batchSize =>
      have hlocks : (o.carryOut i (.selectForUpdate maxRetries batchSize)).2.locks =
          o.locks ++ ((o.selected i maxRetries batchSize).map OutboxRecord.id).map
              (fun id => (i, id)) := by
        rw [List.map_map]
        rfl
      rw [hlocks]
      refine locksMove_append ?_
      intro id hid
      obtain ⟨row, hrow, rfl⟩ := List.mem_map.mp hid
      have hfree := (List.mem_filter.mp (List.mem_of_mem_take hrow)).2
      exact free_of_lockedByOther (by simpa using hfree)
    | publish row => exact .refl i _
    | commit marks => exact locksMove_release i o
    | close => exact locksMove_release i o
  unfold Outbox.exec at h
  dsimp only at h
  split at h
  · cases answer with
    | ok =>
      cases h
      exact hcarried
    | lost kind message =>
      cases h
      exact .refl i _
    | late kind message =>
      cases h
      exact hcarried
  · cases h
    exact hcarried

/-- A call of a publisher from a point where its marks, if it commits any, are justified. -/
theorem publisher_triple {P : PipelineWorld ι → Prop} {op : OutboxOp}
    {R : Except PyError op.Reply → PipelineWorld ι → Prop} (hidle : ∀ w, P w → w.uncommitted i = 0)
    (hcommit : ∀ w, P w → ∀ marks, op = .commit marks → ∀ mark ∈ marks,
      Justified (contentsOf w.outbox.rows) m.outboxPublisher.maxRetries w.log mark)
    (hR : ∀ w r w', PipelineInv m unbroken w → P w → Grows i w w' → w'.uncommitted i = 0 →
      w'.log = w.log ++ [(i, ⟨op, r⟩)] →
      (r = .ok (w.outboxPart.carryOut i op).1 ∨
        op.mayFail = true ∧ ∃ e, r = .error e ∧ e.isException = true) → R r w') :
    Triple (publisherRely m unbroken) i P op R := by
  intro w choice r w' hinv hP _ hexec
  have hcalled : (Outbox.exec i op choice.answer w.outboxPart).map (fun called => (called.1,
      { w with outbox := called.2.outbox, locks := called.2.locks, log := called.2.log })) =
        some (r, w') := hexec
  obtain ⟨⟨reply, o'⟩, houtbox, heq⟩ := Option.map_eq_some_iff.mp hcalled
  obtain ⟨rfl, rfl⟩ := Prod.mk.inj heq
  obtain ⟨hlog, hrows, hreply⟩ := exec_cases houtbox
  have hlocks := locksMove_exec houtbox
  have hsubset : w.log ⊆ o'.log := by
    rw [hlog]
    exact List.subset_append_left _ _
  have hkept :
      PipelineInv m unbroken { w with outbox := o'.outbox, locks := o'.locks, log := o'.log } ∧
      Grows i w { w with outbox := o'.outbox, locks := o'.locks, log := o'.log } := by
    rcases hrows with hsame | ⟨marks, hop, hmarked⟩
    · have hself : o'.outbox = w.outbox.mapRows id (fun _ => rfl) :=
        hsame.trans (Table.ext (List.map_id _).symm)
      rw [hself]
      exact hinv.published (fun _ => rfl) (fun _ => rfl) (fun _ => rfl) hsubset
        (fun row hrow => (hinv.sound row hrow).mono hsubset) hlocks (hidle w hP)
    · rw [hmarked]
      refine hinv.published (marked_id marks) (eventOf_marked marks)
        (marked_message marks) hsubset ?_ hlocks (hidle w hP)
      intro row hrow
      have hkeys : ((contentsOf w.outbox.rows).map Prod.fst).Nodup := by
        unfold contentsOf
        rw [List.map_map]
        exact w.outbox.keys_nodup
      exact ((hinv.sound row hrow).marked hkeys (List.mem_map_of_mem hrow)
        (hcommit w hP marks hop)).mono hsubset
  exact ⟨hkept.1, hkept.2, hR w reply _ hinv hP hkept.2 (hidle w hP) hlog hreply⟩

end

section

variable {m : DocumentsModule} {unbroken : Prop} {i : ι} {rows : List OutboxRecord}
  {marks : List Mark} {row : OutboxRecord} {clock : Int → DateTime}

/-- A process that stores no chunks. -/
def StoresNone (i : ι) (w : PipelineWorld ι) : Prop := w.uncommitted i = 0

variable [DecidableEq ι]

theorem storesNone_stable : Stable (publisherRely m unbroken) i (StoresNone i) :=
  fun _ _ _ hj _ _ hgrows h => (hgrows.uncommitted i hj.symm).trans h

theorem select_outline (i : ι) : Outline (publisherRely m unbroken) i (StoresNone i)
    (Prog.perform
      (OutboxOp.selectForUpdate m.outboxPublisher.maxRetries m.outboxPublisher.batchSize))
    (okOr (fun rows w => (∀ row ∈ rows, row.retryCount < m.outboxPublisher.maxRetries) ∧
      Marking m i rows [] w) (StoresNone i)) := by
  refine Outline.perform (fun r => ?_)
    (publisher_triple (fun _ h => h) (fun _ _ _ hop => by cases hop) ?_)
  · cases r with
    | error e => exact storesNone_stable
    | ok rows => exact (stable_const _).and (marking_stable rows [])
  · intro w r w' hinv hidle hgrows hidle' _ hreply
    rcases hreply with rfl | ⟨hfails, -⟩
    · have hselected :
          ∀ row ∈ w.outboxPart.selected i m.outboxPublisher.maxRetries m.outboxPublisher.batchSize,
          row ∈ w.outbox.rows ∧ row.isSelectable m.outboxPublisher.maxRetries = true := by
        intro row hrow
        have hsorted := List.mem_of_mem_filter (List.mem_of_mem_take hrow)
        rw [List.mem_insertionSort, List.mem_filter] at hsorted
        exact hsorted
      refine ⟨?_, hidle', ?_, fun _ hmark => absurd hmark List.not_mem_nil⟩
      · intro row hrow
        have hselectable := (hselected row hrow).2
        unfold OutboxRecord.isSelectable at hselectable
        rw [Bool.and_eq_true, decide_eq_true_eq] at hselectable
        exact hselectable.2
      · intro row hrow
        exact hgrows.contents (List.mem_map_of_mem (hselected row hrow).1)
    · cases hfails

theorem publish_outline : Outline (publisherRely m unbroken) i (Marking m i rows marks)
    (Prog.perform (OutboxOp.publish row)) (fun r w => Marking m i rows marks w ∧
      ∀ a, r = .ok a → Acknowledged w.log row.id row.message) := by
  refine Outline.perform (fun r => ?_)
    (publisher_triple (fun _ h => h.idle) (fun _ _ _ hop => by cases hop) ?_)
  · intro w w' j hj hinv hinv' hgrows h
    exact ⟨h.1.grows hj hgrows, fun a ha => (h.2 a ha).mono hgrows.log⟩
  · intro w r w' hinv h hgrows hidle hlog hreply
    refine ⟨⟨hidle, fun row hrow => hgrows.contents (h.rows row hrow),
      fun mark hmark => justified_grows (h.marks mark hmark) hgrows.contents hgrows.log⟩, ?_⟩
    rintro a rfl
    refine ⟨i, row, ?_, rfl, rfl⟩
    rw [hlog]
    exact List.mem_append_right _ List.mem_cons_self

/-- The round of a row ends with its mark, or raises. -/
theorem publishRow_outline (now : DateTime) (hrow : row ∈ rows)
    (hretry : row.retryCount < m.outboxPublisher.maxRetries) :
    Outline (publisherRely m unbroken) i (Marking m i rows marks)
      (OutboxPublisher.publishRow row now)
      (okOr (fun mark => Marking m i rows (marks ++ [mark])) (StoresNone i)) := by
  have hmarked : ∀ {mark : Mark} {w : PipelineWorld ι}, Marking m i rows marks w →
      Justified (contentsOf w.outbox.rows) m.outboxPublisher.maxRetries w.log mark →
      Marking m i rows (marks ++ [mark]) w := by
    intro mark w h hmark
    refine ⟨h.idle, h.rows, ?_⟩
    intro other hother
    rcases List.mem_append.mp hother with hbefore | hlast
    · exact h.marks other hbefore
    · rw [List.mem_singleton.mp hlast]
      exact hmark
  refine publish_outline.attemptOr.bind ?_ (fun _ _ _ h => False.elim h)
  intro result
  cases result with
  | ok a =>
    refine Outline.pure ?_
    rintro w - ⟨h, hacknowledged⟩
    exact hmarked h ⟨row.message, h.rows row hrow, hacknowledged a rfl⟩
  | error e =>
    dsimp only
    split
    · have hbackoff : Outline (publisherRely m unbroken) i (Marking m i rows marks)
          (Prog.ofExcept (OutboxPublisher.backoff (row.retryCount + 1)))
            (okOr (fun _ => Marking m i rows marks) (StoresNone i)) := by
        refine Outline.ofExcept ?_
        intro w _ h
        cases OutboxPublisher.backoff (row.retryCount + 1) with
        | error e => exact h.idle
        | ok a => exact h
      refine (hbackoff.pre (fun _ _ h => h.1)).bindOr ?_
      intro _
      exact Outline.pure (fun w _ h => hmarked h (Nat.succ_le_of_lt hretry))
    · exact Outline.raise (fun w _ h => h.1.idle)

/-- The loop over the rows of a batch. -/
theorem publishEach_outline {rest : List OutboxRecord}
    (hrest : ∀ row ∈ rest, row ∈ rows ∧ row.retryCount < m.outboxPublisher.maxRetries) :
    Outline (publisherRely m unbroken) i (Marking m i rows marks)
      (Prog.foldEach rest marks fun marks row => do
        let mark ← OutboxPublisher.publishRow row (clock row.id)
        return marks ++ [mark])
      (okOr (fun marks => Marking m i rows marks) (StoresNone i)) := by
  induction rest generalizing marks with
  | nil => exact Outline.pure (fun _ _ h => h)
  | cons row rest ih =>
    obtain ⟨hrow, hretry⟩ := hrest row List.mem_cons_self
    unfold Prog.foldEach
    refine Outline.bindOr ((publishRow_outline (clock row.id) hrow hretry).bindOr
      (fun mark => Outline.pure (fun _ _ h => h))) ?_
    intro marks'
    exact ih (fun row' hrow' => hrest row' (List.mem_cons_of_mem row hrow'))

theorem publishRows_outline : Outline (publisherRely m unbroken) i (StoresNone i)
    (m.outboxPublisher.publishRows clock) (fun _ => StoresNone i) := by
  have hrows :
      Outline (publisherRely m unbroken) i (StoresNone i) (m.outboxPublisher.publishRows clock)
      (okOr (fun _ => StoresNone i) (StoresNone i)) := by
    refine (select_outline i).bindOr ?_
    intro rows
    refine Outline.of_and ?_
    intro hretry
    split
    · exact Outline.pure (fun _ _ h => h.idle)
    · refine (publishEach_outline (fun row hrow => ⟨hrow, hretry row hrow⟩)).bindOr ?_
      intro marks
      have hcommit : Outline (publisherRely m unbroken) i (Marking m i rows marks)
          (Prog.perform (OutboxOp.commit marks)) (fun _ => StoresNone i) := by
        refine Outline.perform (fun _ => storesNone_stable) (publisher_triple (fun _ h => h.idle) ?_
          (fun _ _ _ _ _ _ hidle _ _ => hidle))
        intro w h marks' hop
        cases hop
        exact h.marks
      exact hcommit.bind (fun _ => Outline.pure (fun _ _ h => h)) (fun _ _ _ h => h)
  refine hrows.post ?_
  intro r w _ h
  cases r <;> exact h

theorem publishBatch_outline : Outline (publisherRely m unbroken) i (StoresNone i)
    (m.outboxPublisher.publishBatch clock) (fun _ => StoresNone i) := by
  have hclose : Outline (publisherRely m unbroken) i (StoresNone i) (Prog.perform OutboxOp.close)
      (fun _ => StoresNone i) :=
    Outline.perform (fun _ => storesNone_stable)
      (publisher_triple (fun _ h => h) (fun _ _ _ hop => by cases hop)
      (fun _ _ _ _ _ _ hidle _ _ => hidle))
  refine publishRows_outline.attemptOr.bind ?_ (fun _ _ _ h => False.elim h)
  intro result
  refine hclose.attemptOr.bind ?_ (fun _ _ _ h => False.elim h)
  intro _
  exact Outline.ofExcept (fun _ _ h => h)

theorem publisher_outline (i : ι) (clocks : List (Int → DateTime)) :
    Outline (pipelineRely m unbroken) i (StoresNone i) (m.program (.publisher clocks))
      (fun _ _ => True) := by
  have hbatches : Outline (publisherRely m unbroken) i (StoresNone i)
      (m.outboxPublisher.publishBatches clocks) (fun _ => StoresNone i) := by
    refine Outline.forEach ?_ (fun _ _ h => h)
    intro clock _
    refine publishBatch_outline.attemptOr.bind ?_ (fun _ _ _ h => False.elim h)
    intro _
    exact Outline.pure (fun _ _ h => h)
  have hembedded :
      Outline (pipelineRely m unbroken) i (StoresNone i) (m.program (.publisher clocks))
      (fun _ => StoresNone i) := hbatches.embed (fun _ h => h) (fun _ h => h) (fun _ _ _ h => h)
  exact hembedded.post (fun _ _ _ _ => trivial)

end

end HotAirBalloon.Pipeline
