import HotAirBalloon.Evidence.RoundTrip
import HotAirBalloon.Documents.ChunksOnce
import HotAirBalloon.Documents.PipelineRounds

/-!
# Runs of the pipeline

The consumers, call by call, and from that what holds in every state that uploads, publishers and
consumers reach together: `pipelineKeepsDocuments` whatever fails, and `pipelineIndexesOnce` when no
run is broken off.
-/

namespace HotAirBalloon.Pipeline

open Python Library Memory Outbox Uploads
open Evidence (uuidOf uuidOf_str)
open Documents
    (Assignment DocumentRecord IngestionOp IngestionAction DocumentIngestionConsumer documentAfter
  eventAfter pendingEvents documentAfter_eq handbookConsumer)

variable {ι : Type}

/-! ## A consumer among others -/

section

variable {m : DocumentsModule} {unbroken : Prop} {i j : ι} {w w' : PipelineWorld ι}
  {event : Documents.OutboxRecord} {batch rest : List Documents.OutboxRecord} {rounds : List Round}
  {current : List Assignment} {document : DocumentRecord} {done : List String}

/-- The text of a document, as the consumer has extracted it. -/
def TextOf (m : DocumentsModule) (document : DocumentRecord) (text : String)
    (w : PipelineWorld ι) : Prop :=
  ∃ payload, w.download m.uploadDocument document.blobContainer document.blobName = .ok payload ∧
    m.ingestionConsumer.textExtractor.extract document.contentType payload = .ok text

theorem TextOf.grows {text : String} (h : TextOf m document text w) (hgrows : Grows j w w') :
    TextOf m document text w' := by
  obtain ⟨payload, hpayload, htext⟩ := h
  exact ⟨payload, download_mono hgrows.blobs hpayload, htext⟩

theorem TextOf.chunksOf {text : String} {chunks : List String} (h : TextOf m document text w)
    (hloaded : Loaded document w) (hchunks : m.ingestionConsumer.chunker.chunk text = .ok chunks) :
    ∀ stored ∈ w.documents, stored.id = document.id → m.chunksOf w stored = .ok chunks := by
  intro stored hstored hid
  obtain ⟨payload, hpayload, htext⟩ := h
  obtain ⟨other, hother, hid', htype, hcontainer, hname, -⟩ := hloaded
  have hsame : other = stored := Table.eq_of_key_eq hother hstored (hid'.trans hid.symm)
  subst hsame
  unfold DocumentsModule.chunksOf
  rw [hcontainer, hname, hpayload, htype]
  change (m.ingestionConsumer.textExtractor.extract document.contentType payload >>= _) = _
  rw [htext]
  exact hchunks

/-- In the round of an event: its document is loaded, and some chunks are stored. -/
structure InRound (m : DocumentsModule) (unbroken : Prop) (i : ι)
    (batch : List Documents.OutboxRecord)
    (rounds : List Round) (current : List Assignment) (event : Documents.OutboxRecord)
    (document : DocumentRecord) (done : List String) (rest : List Documents.OutboxRecord)
    (w : PipelineWorld ι) : Prop where
  run : InRun m unbroken i batch rounds current rest w
  mem : event ∈ batch
  loaded : Loaded document w
  stored : Stored unbroken w document.id done

theorem InRound.grows (h : InRound m unbroken i batch rounds current event document done rest w)
    (hkey : event.key = document.id.str) (hj : j ≠ i) (hgrows : Grows j w w') :
    InRound m unbroken i batch rounds current event document done rest w' where
  run := h.run.grows hj hgrows
  mem := h.mem
  loaded := h.loaded.grows hgrows
  stored := h.stored.congr ((h.run.held event h.mem).storedChunks hj hgrows hkey)

/-- A step of the session itself. -/
theorem InRun.own (h : InRun m unbroken i batch rounds current rest w) (hgrows : Grows i w w')
    (houtbox : w'.outbox = w.outbox) (hlocks : w'.locks = w.locks) {current' : List Assignment}
    (hassigned : w'.assigned i = rounds.flatMap Round.assignments ++ current')
    (hsame : ∀ other ∈ rounds.map (·.event) ++ rest, ∀ id : Uuid, other.key = id.str →
      w'.storedChunks id = w.storedChunks id) :
    InRun m unbroken i batch rounds current' rest w' where
  assigned := hassigned
  held event hevent := by
    have hheld := h.held event hevent
    exact ⟨by rw [hlocks]; exact hheld.locked, hheld.pending, by rw [houtbox]; exact hheld.row⟩
  locks id hid := by
    rw [hlocks] at hid
    exact h.locks id hid
  finished round hround := by
    obtain ⟨hmem, hkey, houtcome⟩ := h.finished round hround
    have hround' : round.event ∈ rounds.map (·.event) ++ rest :=
      List.mem_append_left _ (List.mem_map_of_mem hround)
    exact ⟨hmem, hkey, houtcome.grows hgrows (hsame _ hround' _ hkey)⟩
  untouched other hother := by
    obtain ⟨hmem, hstored⟩ := h.untouched other hother
    exact ⟨hmem, fun id hkey =>
      (hstored id hkey).congr (hsame other (List.mem_append_right _ hother) id hkey)⟩

/-- The end of a round. -/
theorem InRound.finish (h : InRound m unbroken i batch rounds current event document done rest w)
    (hkey : event.key = document.id.str) {now : DateTime} {error : Option String}
    (hcurrent : current = Round.assignments ⟨event, document.id, now, error⟩)
    (houtcome : Outcome m unbroken w document.id error) :
    InRun m unbroken i batch (rounds ++ [⟨event, document.id, now, error⟩]) [] rest w where
  assigned := by
    rw [h.run.assigned, hcurrent, List.append_nil, List.flatMap_append, List.flatMap_singleton]
  held := h.run.held
  locks := h.run.locks
  finished round hround := by
    rcases List.mem_append.mp hround with hbefore | hlast
    · exact h.run.finished round hbefore
    · rw [List.mem_singleton.mp hlast]
      exact ⟨h.mem, hkey, houtcome⟩
  untouched := h.run.untouched

variable [DecidableEq ι]

/-! ## Calls -/

/-- A call that is carried out, or raises. -/
theorem consumer_perform {P : PipelineWorld ι → Prop} {op : IngestionOp}
    {R : op.Reply → PipelineWorld ι → Prop}
    (hstable : ∀ a, Stable (consumerRely m unbroken) i (R a))
    (h : ∀ w, PipelineInv m unbroken w → P w → endsCommitted unbroken i (.consumer op) w →
      PipelineInv m unbroken (m.carryOut w i op).2 ∧ Grows i w (m.carryOut w i op).2 ∧
        okOnly R (m.carryOut w i op).1 (m.carryOut w i op).2) :
    Outline (consumerRely m unbroken) i P (Prog.perform op) (okOnly R) := by
  refine Outline.perform ?_ ?_
  · intro r
    cases r with
    | error e => exact stable_const True
    | ok a => exact hstable a
  · intro w choice r w' hinv hP hcond hexec
    have hcarried := h w hinv hP hcond
    have hcalled : some (if DocumentIngestionConsumer.alwaysArrives op then m.carryOut w i op
        else delivered choice.delivery w (m.carryOut w i op)) = some (r, w') := hexec
    by_cases harrives : DocumentIngestionConsumer.alwaysArrives op = true
    · rw [if_pos harrives] at hcalled
      exact delivered_spec .arrives hinv hcarried hcalled
    · rw [if_neg harrives] at hcalled
      exact delivered_spec choice.delivery hinv hcarried hcalled

/-- A call that only reads leaves everything as it is, also when it raises. -/
theorem consumer_read {P : PipelineWorld ι → Prop} {op : IngestionOp}
    {F : op.Reply → PipelineWorld ι → Prop}
    (hP : Stable (consumerRely m unbroken) i P) (hF : ∀ a, Stable (consumerRely m unbroken) i (F a))
    (hread : ∀ w, (m.carryOut w i op).2 = w) (h : ∀ w a, (m.carryOut w i op).1 = .ok a → F a w) :
    Outline (consumerRely m unbroken) i P (Prog.perform op)
      (fun r w => P w ∧ ∀ a, r = .ok a → F a w) := by
  refine Outline.perform ?_ ?_
  · intro r w w' j hj hinv hinv' hgrows hr
    exact ⟨hP w w' j hj hinv hinv' hgrows hr.1, fun a ha =>
      hF a w w' j hj hinv hinv' hgrows (hr.2 a ha)⟩
  · intro w choice r w' hinv hw _ hexec
    have hcalled : some (if DocumentIngestionConsumer.alwaysArrives op then m.carryOut w i op
        else delivered choice.delivery w (m.carryOut w i op)) = some (r, w') := hexec
    have hsame : w' = w ∧ ∀ a, r = .ok a → F a w := by
      have hw := hread w
      have hr := h w
      generalize m.carryOut w i op = called at hcalled hw hr
      split at hcalled
      · cases hcalled
        exact ⟨hw, hr⟩
      · cases hdelivery : choice.delivery with
        | arrives =>
          rw [hdelivery] at hcalled
          cases hcalled
          exact ⟨hw, hr⟩
        | lost e =>
          rw [hdelivery] at hcalled
          cases hcalled
          exact ⟨rfl, nofun⟩
        | late e =>
          rw [hdelivery] at hcalled
          cases hcalled
          exact ⟨hw, nofun⟩
    obtain ⟨rfl, hfact⟩ := hsame
    exact ⟨hinv, .refl i _, hw, hfact⟩

theorem inRound_stable (hkey : event.key = document.id.str) : Stable (consumerRely m unbroken) i
    (InRound m unbroken i batch rounds current event document done rest) :=
  fun _ _ _ hj _ _ hgrows h => h.grows hkey hj hgrows

theorem textOf_stable (document : DocumentRecord) (text : String) :
    Stable (consumerRely m unbroken) i (TextOf m document text) :=
  fun _ _ _ _ _ _ hgrows h => h.grows hgrows

/-- An assignment of the round, with what every step keeps. -/
theorem assign_outline {X : PipelineWorld ι → Prop} (hX : ∀ j w w', Grows j w w' → X w → X w')
    (hkey : event.key = document.id.str) (assignment : Assignment) :
    Outline (consumerRely m unbroken) i
      (fun w => InRound m unbroken i batch rounds current event document done rest w ∧ X w)
      (DocumentIngestionConsumer.assign assignment)
      (okOnly fun _ w =>
        InRound m unbroken i batch rounds (current ++ [assignment]) event document done rest w ∧
          X w) := by
  refine consumer_perform
    (fun _ => (inRound_stable hkey).and (fun w w' j _ _ _ hgrows h => hX j w w' hgrows h)) ?_
  rintro w hinv ⟨h, hx⟩ -
  obtain ⟨hinv', hgrows⟩ := hinv.assign (m := m) (i := i) assignment
  refine ⟨hinv', hgrows,
    ⟨h.run.own hgrows rfl rfl ?_ (fun _ _ _ _ => rfl), h.mem, h.loaded.grows hgrows,
    h.stored.congr rfl⟩, hX i _ _ hgrows hx⟩
  change Function.update w.assigned i (w.assigned i ++ [assignment]) i = _
  rw [Function.update_self, h.run.assigned, List.append_assoc]

/-- Storing the next chunk of the document. -/
theorem record_outline (hkey : event.key = document.id.str)
    (hbatch : batch = rounds.map (·.event) ++ event :: rest) (hnodup : batch.Nodup)
    {text chunk : String} {chunks : List String}
    (hchunks : m.ingestionConsumer.chunker.chunk text = .ok chunks) (hchunk : chunk ∈ chunks) :
    Outline (consumerRely m unbroken) i
      (fun w => InRound m unbroken i batch rounds current event document done rest w ∧
        TextOf m document text w)
      (Prog.perform (IngestionOp.record (DocumentIngestionConsumer.chunkMemory document chunk)))
      (okOnly fun _ w =>
        InRound m unbroken i batch rounds current event document (done ++ [chunk]) rest w ∧
        TextOf m document text w) := by
  refine consumer_perform (fun _ => (inRound_stable hkey).and (textOf_stable document text)) ?_
  rintro w hinv ⟨h, htext⟩ -
  obtain ⟨hinv', hgrows⟩ := hinv.record (h.run.held event h.mem) hkey h.loaded
    (htext.chunksOf h.loaded hchunks) hchunk
  refine ⟨hinv', hgrows,
    ⟨h.run.own hgrows rfl rfl h.run.assigned ?_, h.mem, h.loaded.grows hgrows, ?_⟩,
    htext.grows hgrows⟩
  · intro other hother id hnames
    refine (storedChunks_record w document chunk _ id).trans ?_
    rw [if_neg ?_, List.append_nil]
    rintro rfl
    -- the other events of the batch are of other documents
    have hmem : other ∈ batch := by
      rw [hbatch]
      rcases List.mem_append.mp hother with hbefore | hafter
      · exact List.mem_append_left _ hbefore
      · exact List.mem_append_right _ (List.mem_cons_of_mem _ hafter)
    have hsame : other = event :=
      hinv.event_eq (h.run.held other hmem).row (h.run.held event h.mem).row
      (hnames.trans hkey.symm)
    rw [hsame] at hother
    rw [hbatch] at hnodup
    exact (List.nodup_middle.mp hnodup).notMem hother
  · have hstored := storedChunks_record w document chunk
      (Function.update w.uncommitted i (w.uncommitted i + 1)) document.id
    rw [if_pos rfl] at hstored
    refine ⟨?_, fun hunbroken => ?_⟩
    · have hmore : (done ++ [chunk]).Sublist (w.storedChunks document.id ++ [chunk]) :=
        h.stored.sublist.append (List.Sublist.refl _)
      rw [← hstored] at hmore
      exact hmore
    · refine hstored.trans ?_
      rw [h.stored.exact hunbroken]

end

/-! ## Rounds and runs -/

section

variable [DecidableEq ι] {m : DocumentsModule} {unbroken : Prop} {i : ι}
  {event : Documents.OutboxRecord} {batch rest : List Documents.OutboxRecord} {rounds : List Round}
  {current : List Assignment} {document : DocumentRecord} {done : List String} {now : DateTime}

theorem inRun_stable :
    Stable (consumerRely m unbroken) i (InRun m unbroken i batch rounds current rest) :=
  fun _ _ _ hj _ _ hgrows h => h.grows hj hgrows

/-- Between two rounds. -/
def BetweenRounds (m : DocumentsModule) (unbroken : Prop) (i : ι)
    (batch rest : List Documents.OutboxRecord) (w : PipelineWorld ι) : Prop :=
  ∃ rounds : List Round, batch = rounds.map (·.event) ++ rest ∧
    InRun m unbroken i batch rounds [] rest w

/-- The last assignments of a round. -/
theorem settle_outline (hkey : event.key = document.id.str)
    (hbatch : batch = rounds.map (·.event) ++ event :: rest) (error : Option String)
    {X : PipelineWorld ι → Prop} (hX : ∀ j w w', Grows j w w' → X w → X w')
    (houtcome : ∀ w current,
      InRound m unbroken i batch rounds current event document done rest w → X w →
      Outcome m unbroken w document.id error) :
    Outline (consumerRely m unbroken) i (fun w => InRound m unbroken i batch rounds
        [.status document.id "ingesting"] event document done rest w ∧ X w) (do
        DocumentIngestionConsumer.assign
          (.status document.id (Round.status ⟨event, document.id, now, error⟩))
        DocumentIngestionConsumer.assign (.ingestionError document.id error)
        DocumentIngestionConsumer.assign (.ingestedAt event.id now))
      (okOnly fun _ => BetweenRounds m unbroken i batch rest) := by
  refine (assign_outline hX hkey _).bindOk (fun _ => ?_)
  refine (assign_outline hX hkey _).bindOk (fun _ => ?_)
  refine (assign_outline hX hkey _).post ?_
  intro r w _ h
  cases r with
  | error e => trivial
  | ok a =>
    refine ⟨rounds ++ [⟨event, document.id, now, error⟩], ?_,
      h.1.finish hkey rfl (houtcome w _ h.1 h.2)⟩
    rw [hbatch, List.map_append, List.append_assoc]
    rfl

theorem indexDocument_outline (hkey : event.key = document.id.str)
    (hbatch : batch = rounds.map (·.event) ++ event :: rest) (hnodup : batch.Nodup)
    {text : String} :
    Outline (consumerRely m unbroken) i (fun w => InRound m unbroken i batch rounds
        [.status document.id "ingesting"] event document [] rest w ∧ TextOf m document text w)
      (DocumentIngestionConsumer.indexDocument now event document text)
      (okOnly fun _ => BetweenRounds m unbroken i batch rest) := by
  have hchunk : Outline (consumerRely m unbroken) i (fun w => InRound m unbroken i batch rounds
        [.status document.id "ingesting"] event document [] rest w ∧ TextOf m document text w)
      (Prog.perform (IngestionOp.chunk text)) (fun r w => (InRound m unbroken i batch rounds
        [.status document.id "ingesting"] event document [] rest w ∧ TextOf m document text w) ∧
        ∀ chunks, r = .ok chunks → m.ingestionConsumer.chunker.chunk text = .ok chunks) :=
    consumer_read ((inRound_stable hkey).and (textOf_stable document text))
      (fun _ => stable_const _) (fun _ => rfl) (fun _ _ h => h)
  refine hchunk.bind ?_ (fun _ _ _ _ => trivial)
  intro chunks
  refine Outline.assume (fun _ _ h => h.2 chunks rfl) ?_
  intro hchunks
  -- chunk by chunk, with what is stored and what is left
  have hloop : Outline (consumerRely m unbroken) i (fun w => ∃ before, chunks = before ++ chunks ∧
        InRound m unbroken i batch rounds [.status document.id "ingesting"]
          event document before rest w ∧
        TextOf m document text w)
      (Prog.forEach chunks fun chunk =>
        Prog.perform (IngestionOp.record (DocumentIngestionConsumer.chunkMemory document chunk)))
      (okOnly fun _ w =>
        InRound m unbroken i batch rounds [.status document.id "ingesting"] event document
        chunks rest w ∧ TextOf m document text w) := by
    refine Outline.forRest (fun left w => ∃ before, chunks = before ++ left ∧
      InRound m unbroken i batch rounds [.status document.id "ingesting"]
        event document before rest w ∧
      TextOf m document text w) ?_ ?_
    · intro chunk left
      refine Outline.of_exists (fun before => ?_)
      refine Outline.of_and (fun hsplit => ?_)
      have hmem : chunk ∈ chunks := by
        rw [hsplit]
        exact List.mem_append_right _ List.mem_cons_self
      refine (record_outline hkey hbatch hnodup hchunks hmem).post ?_
      intro r w _ h
      cases r with
      | error e => trivial
      | ok a => exact ⟨before ++ [chunk], by rw [hsplit, List.append_assoc]; rfl, h⟩
    · rintro w - ⟨before, hsplit, h⟩
      rw [List.append_nil] at hsplit
      rw [hsplit]
      exact h
  refine (hloop.pre (fun w _ h => ⟨[], rfl, h.1⟩)).bindOk (fun _ => ?_)
  have hsettle : Outline (consumerRely m unbroken) i (fun w => InRound m unbroken i batch rounds
        [.status document.id "ingesting"] event document chunks rest w ∧
          TextOf m document text w) (do
        DocumentIngestionConsumer.assign
          (.status document.id (Round.status ⟨event, document.id, now, none⟩))
        DocumentIngestionConsumer.assign (.ingestionError document.id none)
        DocumentIngestionConsumer.assign (.ingestedAt event.id now))
      (okOnly fun _ => BetweenRounds m unbroken i batch rest) := by
    refine settle_outline hkey hbatch none (fun _ _ _ hgrows h => h.grows hgrows) ?_
    intro w current h htext
    obtain ⟨stored, hstored, hid, -⟩ := h.loaded
    exact .indexed hstored hid (htext.chunksOf h.loaded hchunks stored hstored hid) h.stored
  exact hsettle

/-- The handler of a failed extraction. -/
theorem failDocument_outline (hkey : event.key = document.id.str)
    (hbatch : batch = rounds.map (·.event) ++ event :: rest) (e : PyError) :
    Outline (consumerRely m unbroken) i (InRound m unbroken i batch rounds
        [.status document.id "ingesting"] event document [] rest)
      (DocumentIngestionConsumer.failDocument now event document e)
      (okOnly fun _ => BetweenRounds m unbroken i batch rest) := by
  have hsettle : Outline (consumerRely m unbroken) i (fun w => InRound m unbroken i batch rounds
        [.status document.id "ingesting"] event document [] rest w ∧ True)
      (DocumentIngestionConsumer.failDocument now event document e)
      (okOnly fun _ => BetweenRounds m unbroken i batch rest) := by
    refine settle_outline hkey hbatch (some (String.ofList (e.message.toList.take 4000)))
      (fun _ _ _ _ _ => trivial) ?_
    intro w current h _
    refine .failed ?_ h.stored
    rw [String.length_ofList, List.length_take]
    exact Nat.min_le_left _ _
  exact hsettle.pre (fun _ _ h => ⟨h, trivial⟩)

/-- The text of a document, or an error, and the round as it was. -/
theorem extractText_outline (hkey : event.key = document.id.str) :
    Outline (consumerRely m unbroken) i
      (InRound m unbroken i batch rounds current event document done rest)
      (DocumentIngestionConsumer.extractText document)
      (fun r w => InRound m unbroken i batch rounds current event document done rest w ∧
        ∀ text, r = .ok text → TextOf m document text w) := by
  have hdownload : Outline (consumerRely m unbroken) i
      (InRound m unbroken i batch rounds current event document done rest)
      (Prog.perform (IngestionOp.download document.blobContainer document.blobName))
      (fun r w => InRound m unbroken i batch rounds current event document done rest w ∧
        ∀ payload, r = .ok payload →
          w.download m.uploadDocument document.blobContainer document.blobName = .ok payload) :=
    consumer_read (inRound_stable hkey)
      (fun _ _ _ _ _ _ _ hgrows h => download_mono hgrows.blobs h) (fun _ => rfl) (fun _ _ h => h)
  refine hdownload.bind ?_ (fun _ _ _ h => ⟨h.1, nofun⟩)
  intro payload
  have hextract : Outline (consumerRely m unbroken) i
      (fun w => InRound m unbroken i batch rounds current event document done rest w ∧
        w.download m.uploadDocument document.blobContainer document.blobName = .ok payload)
      (Prog.perform (IngestionOp.extract document.contentType payload))
      (fun r w => (InRound m unbroken i batch rounds current event document done rest w ∧
        w.download m.uploadDocument document.blobContainer document.blobName = .ok payload) ∧
        ∀ text, r = .ok text →
          m.ingestionConsumer.textExtractor.extract document.contentType payload = .ok text) :=
    consumer_read ((inRound_stable hkey).and (fun _ _ _ _ _ _ hgrows h =>
      download_mono hgrows.blobs h))
      (fun _ => stable_const _) (fun _ => rfl) (fun _ _ h => h)
  refine (hextract.pre (fun _ _ h => ⟨h.1, h.2 payload rfl⟩)).post ?_
  intro r w _ h
  exact ⟨h.1.1, fun text htext => ⟨payload, h.1.2, h.2 text htext⟩⟩

/-- The round of an event whose document is loaded. -/
theorem ingestDocument_outline (hkey : event.key = document.id.str)
    (hbatch : batch = rounds.map (·.event) ++ event :: rest) (hnodup : batch.Nodup)
    (processed : Nat) :
    Outline (consumerRely m unbroken) i
      (InRound m unbroken i batch rounds [] event document [] rest)
      (DocumentIngestionConsumer.ingestDocument now processed event document)
      (okOnly fun _ => BetweenRounds m unbroken i batch rest) := by
  have hassign : Outline (consumerRely m unbroken) i
      (fun w => InRound m unbroken i batch rounds [] event document [] rest w ∧ True)
      (DocumentIngestionConsumer.assign (.status document.id "ingesting"))
      (okOnly fun _ w =>
        InRound m unbroken i batch rounds [.status document.id "ingesting"] event document []
        rest w ∧ True) := assign_outline (fun _ _ _ _ _ => trivial) hkey _
  refine (hassign.pre (fun _ _ h => ⟨h, trivial⟩)).bindOk (fun _ => ?_)
  have hextract : Outline (consumerRely m unbroken) i (fun w => InRound m unbroken i batch rounds
        [.status document.id "ingesting"] event document [] rest w ∧ True)
      (DocumentIngestionConsumer.extractText document) (fun r w => InRound m unbroken i batch rounds
        [.status document.id "ingesting"] event document [] rest w ∧
          ∀ text, r = .ok text → TextOf m document text w) :=
    (extractText_outline hkey).pre (fun _ _ h => h.1)
  refine hextract.attemptOk.bind ?_ (fun _ _ _ _ => trivial)
  intro result
  cases result with
  | ok text =>
    refine ((indexDocument_outline hkey hbatch hnodup).pre
      (fun _ _ h => ⟨h.1, h.2 text rfl⟩)).bindOk ?_
    intro _
    exact Outline.pure (fun _ _ h => h)
  | error e =>
    dsimp only
    split
    · refine ((failDocument_outline hkey hbatch e).pre (fun _ _ h => h.1)).bindOk (fun _ => ?_)
      exact Outline.pure (fun _ _ h => h)
    · exact Outline.raise (fun _ _ _ => trivial)

end

/-! ## A run -/

section

variable [DecidableEq ι] {m : DocumentsModule} {unbroken : Prop} {i : ι}
  {event : Documents.OutboxRecord} {batch rest : List Documents.OutboxRecord} {rounds : List Round}
  {clock : Int → DateTime} {now : DateTime}

omit [DecidableEq ι] in
/-- A held event names a document of the table. -/
theorem PipelineInv.named_held {w : PipelineWorld ι} (h : PipelineInv m unbroken w)
    (hheld : Held i event w) : ∃ document ∈ w.documents, event.key = document.id.str := by
  obtain ⟨row, hrow, rfl⟩ := hheld.row
  obtain ⟨document, hdocument, call, hmessage⟩ := h.named row hrow
  exact ⟨document, hdocument, congrArg OutboxMessage.key hmessage⟩

/-- The session finds the document of an event. -/
theorem getDocument_outline {documentId : Uuid} (hkey : event.key = documentId.str) :
    Outline (consumerRely m unbroken) i (InRun m unbroken i batch rounds [] (event :: rest))
      (Prog.perform (IngestionOp.getDocument documentId)) (okOnly fun found w =>
        InRun m unbroken i batch rounds [] (event :: rest) w ∧
          ∃ document, found = some document ∧ document.id = documentId ∧ Loaded document w) := by
  refine consumer_perform (fun _ => inRun_stable.and ?_) ?_
  · rintro w w' j - - - hgrows ⟨document, hfound, hid, hloaded⟩
    exact ⟨document, hfound, hid, hloaded.grows hgrows⟩
  · intro w hinv h _
    refine ⟨hinv, .refl i w, h, ?_⟩
    obtain ⟨document, hdocument, hnamed⟩ :=
      hinv.named_held (h.held event (h.untouched event List.mem_cons_self).1)
    obtain rfl : document.id = documentId := Uuid.str_injective (hnamed.symm.trans hkey)
    obtain ⟨status, error, heq⟩ := documentAfter_eq (w.assigned i) (w.record document)
    refine ⟨documentAfter (w.assigned i) (w.record document), ?_, ?_, document, hdocument, ?_⟩
    · rw [Table.find?_eq_some_iff.mpr ⟨hdocument, rfl⟩]
      rfl
    · rw [heq]
      rfl
    · rw [heq]
      exact ⟨rfl, rfl, rfl, rfl, rfl⟩

/-- The round of an event. -/
theorem ingestEvent_outline (hnodup : batch.Nodup) (processed : Nat) :
    Outline (consumerRely m unbroken) i (BetweenRounds m unbroken i batch (event :: rest))
      (m.ingestionConsumer.ingestEvent now processed event)
      (okOnly fun _ => BetweenRounds m unbroken i batch rest) := by
  refine Outline.of_exists (fun rounds => ?_)
  refine Outline.of_and (fun hbatch => ?_)
  have hnames : ∀ w, PipelineInv m unbroken w →
      InRun m unbroken i batch rounds [] (event :: rest) w →
      ∃ documentId : Uuid, event.key = documentId.str := by
    intro w hinv h
    obtain ⟨document, -, hnamed⟩ :=
      hinv.named_held (h.held event (h.untouched event List.mem_cons_self).1)
    exact ⟨document.id, hnamed⟩
  refine Outline.assume hnames ?_
  rintro ⟨documentId, hkey⟩
  unfold DocumentIngestionConsumer.ingestEvent
  rw [hkey, uuidOf_str]
  refine (getDocument_outline hkey).bindOk (fun found => ?_)
  cases found with
  | none =>
    refine Outline.of_false.pre ?_
    rintro w - ⟨-, document, hfound, -⟩
    cases hfound
  | some document =>
    have hsame : ∀ w, PipelineInv m unbroken w →
        (InRun m unbroken i batch rounds [] (event :: rest) w ∧
        ∃ other, some document = some other ∧ other.id = documentId ∧ Loaded other w) →
        document.id = documentId := by
      rintro w - ⟨-, other, hfound, hid, -⟩
      cases hfound
      exact hid
    refine Outline.assume hsame ?_
    rintro rfl
    refine (ingestDocument_outline hkey hbatch hnodup processed).pre ?_
    rintro w - ⟨hrun, other, hfound, -, hloaded⟩
    cases hfound
    obtain ⟨hmem, hstored⟩ := hrun.untouched event List.mem_cons_self
    exact ⟨⟨hrun.assigned, hrun.held, hrun.locks, hrun.finished,
      fun event' hevent' => hrun.untouched event' (List.mem_cons_of_mem event hevent')⟩,
        hmem, hloaded,
      hstored _ hkey⟩

theorem idle_stable : Stable (consumerRely m unbroken) i (Idle i) := by
  intro w w' j hj _ _ hgrows h
  refine ⟨(hgrows.assigned i hj.symm).trans h.assigned,
    (hgrows.uncommitted i hj.symm).trans h.uncommitted, ?_⟩
  intro id hid
  exact h.locks id ((hgrows.locks i hj.symm id).mp hid)

theorem ingestBatch_outline (clock : Int → DateTime) :
    Outline (consumerRely m unbroken) i (Idle i) (m.ingestionConsumer.ingestBatch clock)
      (okOnly fun _ _ => True) := by
  have hselect : Outline (consumerRely m unbroken) i (Idle i)
      (Prog.perform
        (IngestionOp.selectEvents m.ingestionConsumer.topicName m.ingestionConsumer.batchSize))
      (okOnly fun batch w => batch.Nodup ∧ InRun m unbroken i batch [] [] batch w) := by
    refine consumer_perform (fun _ => (stable_const _).and inRun_stable) ?_
    intro w hinv hidle _
    exact hinv.select hidle _ _
  refine hselect.bindOk (fun batch => ?_)
  refine Outline.of_and (fun hnodup => ?_)
  have hloop : Outline (consumerRely m unbroken) i (BetweenRounds m unbroken i batch batch)
      (Prog.foldEach batch 0 fun processed event =>
        m.ingestionConsumer.ingestEvent (clock event.id) processed event)
      (okOnly fun _ => BetweenRounds m unbroken i batch []) := by
    refine Outline.foldRest (fun rest _ =>
      BetweenRounds m unbroken i batch rest) ?_ (fun _ _ _ h => h)
    intro event rest processed
    refine (ingestEvent_outline hnodup processed).post ?_
    intro r w _ h
    cases r <;> exact h
  refine (hloop.pre (fun w _ h => ⟨[], rfl, h⟩)).bindOk (fun processed => ?_)
  have hcommit : Outline (consumerRely m unbroken) i (BetweenRounds m unbroken i batch [])
      (Prog.perform IngestionOp.commit) (okOnly fun _ _ => True) := by
    refine consumer_perform (fun _ => stable_const True) ?_
    rintro w hinv ⟨rounds, hbatch, hrun⟩ -
    obtain ⟨hinv', hgrows⟩ := hinv.commit hrun (hbatch.trans (List.append_nil _))
    exact ⟨hinv', hgrows, trivial⟩
  exact hcommit.bindOk (fun _ => Outline.pure (fun _ _ h => h))

/-- A run leaves the session closed, and nothing locked. -/
theorem ingestOnce_outline (clock : Int → DateTime) :
    Outline (consumerRely m unbroken) i (Idle i) (m.ingestionConsumer.ingestOnce clock)
      (fun _ => Idle i) := by
  have hclose : Outline (consumerRely m unbroken) i (fun _ => True) (Prog.perform IngestionOp.close)
      (fun _ => Idle i) := by
    refine Outline.perform (fun _ => idle_stable) ?_
    intro w choice r w' hinv _ hcond hexec
    cases hexec
    obtain ⟨hinv', hgrows⟩ := hinv.close hcond
    exact ⟨hinv', hgrows, Function.update_self _ _ _, Function.update_self _ _ _,
      fun id => not_mem_release i w.outboxPart id⟩
  refine (ingestBatch_outline clock).attemptOr.bind ?_ (fun _ _ _ h => False.elim h)
  intro result
  refine (hclose.pre (fun _ _ _ => trivial)).bind (fun _ => ?_) (fun _ _ _ h => h)
  exact Outline.ofExcept (fun _ _ h => h)

theorem consumer_outline (i : ι) (clocks : List (Int → DateTime)) :
    Outline (pipelineRely m unbroken) i (Idle i) (m.program (.consumer clocks))
      (fun _ _ => True) := by
  have hruns : Outline (consumerRely m unbroken) i (Idle i)
      (m.ingestionConsumer.ingestRuns clocks) (fun _ => Idle i) := by
    refine Outline.forEach ?_ (fun _ _ h => h)
    intro clock _
    refine (ingestOnce_outline clock).attemptOr.bind ?_ (fun _ _ _ h => False.elim h)
    intro _
    exact Outline.pure (fun _ _ h => h)
  have hembedded : Outline (pipelineRely m unbroken) i (Idle i) (m.program (.consumer clocks))
      (fun _ => Idle i) := hruns.embed (fun _ h => h) (fun _ h => h) (fun _ _ _ h => h)
  exact hembedded.post (fun _ _ _ _ => trivial)

/-! ## The pipeline -/

omit [DecidableEq ι] in
theorem pipelineInv_empty (m : DocumentsModule) (unbroken : Prop) :
    PipelineInv m unbroken (.empty : PipelineWorld ι) where
  keysUnique _ hdocument := absurd hdocument (Table.not_mem_empty _)
  blobs _ hdocument := absurd hdocument (Table.not_mem_empty _)
  announced _ hdocument := absurd hdocument (Table.not_mem_empty _)
  named _ hrow := absurd hrow (Table.not_mem_empty _)
  once _ hrow := absurd hrow (Table.not_mem_empty _)
  settled _ hdocument := absurd hdocument (Table.not_mem_empty _)
  noError _ _ := rfl
  memories _ hmemory := absurd hmemory List.not_mem_nil
  sound _ hrow := absurd hrow (Table.not_mem_empty _)
  exclusive _ _ _ hlock := absurd hlock List.not_mem_nil
  clean _ _ hdocument := absurd hdocument (Table.not_mem_empty _)

theorem covered_start (m : DocumentsModule) (unbroken : Prop) (roles : ι → Role) :
    Covered (pipelineRely m unbroken) (fun _ _ _ => True) (m.start roles) := by
  refine ⟨pipelineInv_empty m unbroken, fun i => ?_⟩
  change ∃ P, Stable (pipelineRely m unbroken) i P ∧ P .empty ∧
    Outline (pipelineRely m unbroken) i P (m.program (roles i)) (fun _ _ => True)
  cases roles i with
  | uploader calls => exact ⟨_, stable_const True, trivial, uploads_outline i calls⟩
  | publisher clocks => exact ⟨StoresNone i, storesNone_stable, rfl, publisher_outline i clocks⟩
  | consumer clocks =>
    exact ⟨Idle i, idle_stable, ⟨rfl, rfl, fun _ => List.not_mem_nil⟩, consumer_outline i clocks⟩

end

variable [DecidableEq ι]

/-! ## What becomes of a document -/

/-- What the pipeline knows of a document, at its row of the outbox. -/
structure Tracked (m : DocumentsModule) (unbroken : Prop) (w : PipelineWorld ι)
    (document : Document) (row : OutboxRecord) : Prop where
  key : row.key = document.id.str
  only : ∀ other ∈ w.outbox, other.key = document.id.str → other = row
  message : ∃ call, row.message = m.uploadDocument.message call document
  settled :
    Settled m unbroken w document document.status (w.ingestionErrors document.id) row.ingestedAt
  delivered : row.publishedAt.isSome = true ∧ Acknowledged w.log row.id row.message ∨
    row.isSelectable m.outboxPublisher.maxRetries = true ∨
      row.isExhausted m.outboxPublisher.maxRetries = true
  /-- A document without a mark is there to be ingested, unless another session has its row. -/
  pending : row.ingestedAt = none → ∀ i,
    eventOf row ∈ pendingEvents m.ingestionConsumer.topicName (w.freeEvents i) ∨
      ∃ j, j ≠ i ∧ (j, row.id) ∈ w.locks

section

variable {m : DocumentsModule} {unbroken : Prop} {w : PipelineWorld ι}

omit [DecidableEq ι] in
theorem delivered_of_sound {maxRetries : Nat} {row : OutboxRecord} (hmin : 1 ≤ maxRetries)
    (h : RowSound maxRetries w.log row) :
    row.publishedAt.isSome = true ∧ Acknowledged w.log row.id row.message ∨
      row.isSelectable maxRetries = true ∨ row.isExhausted maxRetries = true := by
  cases hpublished : row.publishedAt with
  | some publishedAt =>
    have hsome : row.publishedAt.isSome = true := by rw [hpublished]; rfl
    exact .inl ⟨rfl, h.acknowledged hsome⟩
  | none =>
    rcases Nat.lt_or_eq_of_le h.retries with hless | hequal
    · refine .inr (.inl ?_)
      simp [OutboxRecord.isSelectable, hpublished, hless]
    · have herror := h.lastError hpublished (by omega)
      refine .inr (.inr ?_)
      simp [OutboxRecord.isExhausted, hpublished, hequal, herror]

/-- An event without a mark is pending for a session, unless another one has locked its row. -/
theorem pending_or_locked {row : OutboxRecord} (hrow : row ∈ w.outbox)
    (htopic : row.topic = m.ingestionConsumer.topicName)
    (hpending : row.ingestedAt = none) (i : ι) :
    eventOf row ∈ pendingEvents m.ingestionConsumer.topicName (w.freeEvents i) ∨
      ∃ j, j ≠ i ∧ (j, row.id) ∈ w.locks := by
  cases hlocked : w.outboxPart.lockedByOther i row with
  | false =>
    left
    unfold pendingEvents
    rw [List.mem_mergeSort, List.mem_filter, decide_eq_true_eq]
    refine ⟨List.mem_map.mpr ⟨row, List.mem_filter.mpr ⟨hrow, ?_⟩, rfl⟩, htopic, hpending⟩
    rw [hlocked]
    rfl
  | true =>
    right
    obtain ⟨lock, hlock, hheld⟩ := List.any_eq_true.mp hlocked
    obtain ⟨hother, hid⟩ : lock.1 ≠ i ∧ lock.2 = row.id := by simpa [and_comm] using hheld
    refine ⟨lock.1, hother, ?_⟩
    rw [← hid]
    exact hlock

theorem PipelineInv.tracked (h : PipelineInv m unbroken w) (hmin : 1 ≤ m.outboxPublisher.maxRetries)
    {document : Document} (hdocument : document ∈ w.documents) :
    ∃ row ∈ w.outbox, Tracked m unbroken w document row := by
  obtain ⟨row, hrow, hkey⟩ := h.announced document hdocument
  obtain ⟨named, hnamed, call, hmessage⟩ := h.named row hrow
  have hid : named.id.str = document.id.str := (congrArg OutboxMessage.key hmessage).symm.trans hkey
  obtain rfl : named = document := Table.eq_of_key_eq hnamed hdocument (Uuid.str_injective hid)
  have htopic : row.topic = m.uploadDocument.topicName := congrArg OutboxMessage.topic hmessage
  refine ⟨row, hrow, hkey, ?_, ⟨call, hmessage⟩, h.settled named hdocument row hrow hkey,
    delivered_of_sound hmin (h.sound row hrow), ?_⟩
  · intro other hother hother_key
    exact h.once other hother row hrow (hother_key.trans hkey.symm)
  · intro hpending i
    exact pending_or_locked hrow (htopic.trans m.topic_eq.symm) hpending i

end

variable {c : Config ι PyError PipelineOp PipelineOp.Reply (PipelineWorld ι) Unit}

/-- Runs that nothing is asked of. -/
theorem steps_unasked {m : DocumentsModule}
    {c₀ : Config ι PyError PipelineOp PipelineOp.Reply (PipelineWorld ι) Unit}
    (h : Steps m.exec always c₀ c) : Steps m.exec (endsCommitted False) c₀ c := by
  refine Relation.ReflTransGen.mono ?_ _ _ h
  rintro before after ⟨i, hstep⟩
  obtain @⟨op, next, choice, reply, world, hprogram, -, hexec⟩ := hstep
  refine ⟨i, .mk hprogram ?_ hexec⟩
  unfold endsCommitted
  split
  · exact False.elim
  · trivial

/-- What a run keeps, from a state that its processes have reached. -/
theorem keeps_steps {m : DocumentsModule} {unbroken : Prop}
    {c' : Config ι PyError PipelineOp PipelineOp.Reply (PipelineWorld ι) Unit}
    (h : Covered (pipelineRely m unbroken) (fun _ _ _ => True) c)
    (hsteps : Steps m.exec (endsCommitted unbroken) c c') : Keeps c.world c'.world := by
  induction hsteps with
  | refl => exact .refl c.world
  | tail hbefore hlast ih =>
    obtain ⟨i, hstep⟩ := hlast
    exact ih.trans ((h.steps hbefore).step hstep).2.toKeeps

/-- Whatever uploads, publishers and consumers run, and whichever of their calls fail: every
document has its blob and one event, is queued, indexed or failed together with the mark of that
event, and is not lost to the publishers or the consumers; and the chunk records come from
documents. -/
theorem pipelineKeepsDocuments (m : DocumentsModule) (hmin : 1 ≤ m.outboxPublisher.maxRetries)
    (roles : ι → Role) (hsteps : Steps m.exec always (m.start roles) c) :
    (∀ document ∈ c.world.documents, (∃ blob ∈ c.world.blobs, BlobOf m document blob) ∧
      (∃ row ∈ c.world.outbox, Tracked m False c.world document row) ∧
      ∀ document' ∈ c.world.documents, ∀ key, document.idempotencyKey = some key →
        document'.idempotencyKey = some key → document = document') ∧
    (∀ row ∈ c.world.outbox, ∃ document ∈ c.world.documents, row.key = document.id.str) ∧
    ∀ memory ∈ c.world.memories, ∃ document ∈ c.world.documents, ∃ chunks,
      m.chunksOf c.world document = .ok chunks ∧ ∃ chunk ∈ chunks,
        memory = DocumentIngestionConsumer.chunkMemory (c.world.record document) chunk := by
  have hinv : PipelineInv m False c.world :=
    ((covered_start m False roles).steps (steps_unasked hsteps)).inv
  refine ⟨?_, ?_, hinv.memories⟩
  · intro document hdocument
    exact ⟨hinv.blobs document hdocument, hinv.tracked hmin hdocument,
      hinv.keysUnique document hdocument⟩
  · intro row hrow
    obtain ⟨document, hdocument, call, hmessage⟩ := hinv.named row hrow
    exact ⟨document, hdocument, congrArg OutboxMessage.key hmessage⟩

/-- From any reachable state on nothing is lost, and no chunk is taken back, whatever fails. -/
theorem pipelineLosesNothing (m : DocumentsModule) (roles : ι → Role)
    {c' : Config ι PyError PipelineOp PipelineOp.Reply (PipelineWorld ι) Unit}
    (hsteps : Steps m.exec always (m.start roles) c) (hmore : Steps m.exec always c c') :
    Keeps c.world c'.world ∧
      ∀ id, (c.world.storedChunks id).Sublist (c'.world.storedChunks id) := by
  have hcovered := (covered_start m False roles).steps (steps_unasked hsteps)
  have hkeeps : Keeps c.world c'.world := keeps_steps hcovered (steps_unasked hmore)
  exact ⟨hkeeps, hkeeps.storedChunks⟩

/-- When no run of a consumer is broken off after it has stored chunks, an indexed document has its
chunks, each of them once and in order, and no other document has any that a session is not about to
commit. -/
theorem pipelineIndexesOnce (m : DocumentsModule) (roles : ι → Role)
    (hsteps : Steps m.exec (endsCommitted True) (m.start roles) c) :
    ∀ document ∈ c.world.documents,
      document.status = "indexed" ∧
        m.chunksOf c.world document = .ok (c.world.storedChunks document.id) ∨
      document.status = "failed" ∧ c.world.storedChunks document.id = [] ∨
      document.status = "queued" ∧
        ((∀ i, c.world.uncommitted i = 0) → c.world.storedChunks document.id = []) := by
  have hinv : PipelineInv m True c.world := ((covered_start m True roles).steps hsteps).inv
  intro document hdocument
  obtain ⟨row, hrow, hkey⟩ := hinv.announced document hdocument
  have hsettled := hinv.settled document hdocument row hrow hkey
  generalize hstatus : document.status = status at hsettled
  generalize c.world.ingestionErrors document.id = error at hsettled
  generalize hmark : row.ingestedAt = mark at hsettled
  cases hsettled with
  | queued =>
    refine .inr (.inr ⟨rfl, fun hnone => ?_⟩)
    exact hinv.clean trivial document hdocument row hrow hkey hmark
      (fun i hi => absurd (hnone i) hi)
  | indexed hsplit hstored =>
    refine .inl ⟨rfl, ?_⟩
    rw [hstored.exact trivial]
    exact hsplit
  | failed hshort hstored => exact .inr (.inl ⟨rfl, hstored.exact trivial⟩)

/-! ## A handbook -/

def handbookModule : DocumentsModule where
  uploadDocument := plainStorage
  outboxPublisher := ⟨10, 2⟩
  ingestionConsumer := handbookConsumer
  topic_eq := rfl

def handbookCall : UploadCall where
  command := ⟨"handbook.txt", "text/plain", "Maintenance reports.".toUTF8, none, some "key-1"⟩
  documentId := .ofNat 1
  now := 0
  uploadedAt := 0
  etag := "etag"

/-- An upload, a publisher and two consumers. -/
def handbookRoles : Fin 4 → Role
  | 0 => .uploader [handbookCall]
  | 1 => .publisher [fun _ => 0]
  | 2 => .consumer [fun _ => 0]
  | 3 => .consumer [fun _ => 0]

/-- Both consumers take their batches before the handbook is ingested, and the second gets
nothing. -/
def handbookSchedule : List (Fin 4 × Choice) :=
  [(0, {}), (0, {}), (1, {}), (1, {}), (1, {}), (1, {}), (2, {}), (3, {}), (2, {}), (2, {}),
    (2, {}), (2, {}),
    (2, {}), (2, {}), (3, {}), (2, {}), (2, {}), (2, {}), (2, {}), (2, {}), (3, {})]

def handbookIndexed
    (c : Config (Fin 4) PyError PipelineOp PipelineOp.Reply (PipelineWorld (Fin 4)) Unit) : Bool :=
  c.world.documents.rows.map (·.status) = ["indexed"] ∧ (c.world.storedChunks (.ofNat 1)).length = 1

theorem handbook_indexed : (runSchedule handbookModule.exec always handbookSchedule
    (handbookModule.start handbookRoles)).any handbookIndexed = true := by
  decide +kernel

theorem pipelineKeepsDocuments_handbook :
    ∃ c : Config (Fin 4) PyError PipelineOp PipelineOp.Reply (PipelineWorld (Fin 4)) Unit,
      runSchedule handbookModule.exec always handbookSchedule (handbookModule.start handbookRoles) =
        some c ∧ handbookIndexed c = true ∧
          ∀ document ∈ c.world.documents, ∃ row ∈ c.world.outbox,
            Tracked handbookModule False c.world document row := by
  obtain ⟨c, hrun, hindexed⟩ := (Option.any_eq_true _ _).mp handbook_indexed
  have hkeeps :=
    pipelineKeepsDocuments handbookModule (by decide) handbookRoles (steps_of_runSchedule hrun)
  exact ⟨c, hrun, hindexed, fun document hdocument => (hkeeps.1 document hdocument).2.1⟩

instance (i : ι) (op : PipelineOp) (w : PipelineWorld ι) : Decidable (endsCommitted True i op w) :=
  match op with
  | .consumer .close => inferInstanceAs (Decidable (True → w.uncommitted i = 0))
  | .uploadBlob _ | .writeRows _ _ | .publisher _ | .consumer (.selectEvents _ _) | .consumer
    (.getDocument _)
  | .consumer (.assign _) | .consumer (.download _ _) | .consumer
    (.extract _ _) | .consumer (.chunk _)
  | .consumer (.record _) | .consumer .commit => .isTrue trivial

theorem handbook_indexedOnce :
    (runSchedule handbookModule.exec (endsCommitted True) handbookSchedule
    (handbookModule.start handbookRoles)).any handbookIndexed = true := by
  decide +kernel

theorem pipelineIndexesOnce_handbook :
    ∃ c : Config (Fin 4) PyError PipelineOp PipelineOp.Reply (PipelineWorld (Fin 4)) Unit,
      runSchedule handbookModule.exec (endsCommitted True) handbookSchedule
        (handbookModule.start handbookRoles) = some c ∧ handbookIndexed c = true ∧
          ∀ document ∈ c.world.documents, document.status = "indexed" →
            handbookModule.chunksOf c.world document = .ok (c.world.storedChunks document.id) := by
  obtain ⟨c, hrun, hindexed⟩ := (Option.any_eq_true _ _).mp handbook_indexedOnce
  have honce := pipelineIndexesOnce handbookModule handbookRoles (steps_of_runSchedule hrun)
  refine ⟨c, hrun, hindexed, fun document hdocument hstatus => ?_⟩
  rcases honce document hdocument with ⟨-, hchunks⟩ | ⟨hfailed, -⟩ | ⟨hqueued, -⟩
  · exact hchunks
  · rw [hstatus] at hfailed
    exact absurd hfailed (by decide)
  · rw [hstatus] at hqueued
    exact absurd hqueued (by decide)

end HotAirBalloon.Pipeline
