import HotAirBalloon.Memory.Calls
import HotAirBalloon.Memory.Isolation
import HotAirBalloon.Memory.VectorSteps

/-!
# Reconciliation among calls that add vectors

`reconcile_once` reads the live records, lists the index and deletes what it has not read. A record
that is inserted and synchronised in between is listed and was not read: its vector is taken for an
orphan. When no run deletes a vector that was stored after its read, every record that is marked as
synchronised keeps its vector (`synced_stored`).
-/

namespace HotAirBalloon.Memory

open Python Library

variable {ι : Type} [DecidableEq ι]

/-! ## What a run has read -/

/-- The keys of the live records that a run has read, and those that were stored since. -/
structure Watch where
  read : Option (List (String × String)) := none
  stored : List (String × String) := []

/-- After one more call. -/
def Watch.after (i : ι) (watch : Watch) (entry : ι × Event) : Watch :=
  match entry.2 with
  | ⟨.sql .selectLiveMemories, .ok rows⟩ =>
    if entry.1 = i then ⟨some (rows.map AssistantMemoryRecord.vectorKey), []⟩ else watch
  | ⟨.upsert vector, .ok _⟩ => { watch with stored := vector.key :: watch.stored }
  | _ => watch

def watch (i : ι) (log : List (ι × Event)) : Watch := log.foldl (Watch.after i) {}

/-- A run deletes no vector that was stored after it has read the records. -/
def sparesStored (i : ι) (op : Op) (w : World ι) : Bool :=
  match op with
  | .deleteIds vectorNamespace vectorIds =>
    vectorIds.all fun id => decide ((vectorNamespace, id) ∉ (watch i w.log).stored)
  | _ => true

/-! ## The invariant -/

/-- The vector of a live record that no run takes for an orphan. -/
structure Safe (w : World ι) (key : String × String) : Prop where
  stored : w.index.Holds key
  live : ∃ row ∈ w.server.committed.memories, isLive row = true ∧ row.vectorKey = key
  watched : ∀ i keys, (watch i w.log).read = some keys → key ∈ keys ∨ key ∈ (watch i w.log).stored

/-- A record with the vector and the deletion mark of the committed record of its id. -/
def SameVector (w : World ι) (row : AssistantMemoryRecord) : Prop :=
  ∀ old ∈ w.server.committed.memories, old.id = row.id →
    old.vectorKey = row.vectorKey ∧ old.deletedAt = row.deletedAt

/-- A live record that is marked as synchronised has its vector. -/
def Synced (w : World ι) (row : AssistantMemoryRecord) : Prop :=
  row.syncedAt.isSome = true → isLive row = true → Safe w row.vectorKey

structure SyncInv (w : World ι) : Prop where
  server : ServerInv w
  synced : ∀ row ∈ w.server.committed.memories, Synced w row
  changes : ∀ i edit, Change.memory edit ∈ w.server.changes i →
    ∃ row, edit = .put row ∧ SameVector w row ∧ Synced w row

/-- What a step leaves: the vectors that are safe, and the live records. -/
structure SyncGuar (i : ι) (w w' : World ι) : Prop where
  changes : ∀ j ≠ i, w'.server.changes j = w.server.changes j
  safe : ∀ key, Safe w key → Safe w' key
  live : ∀ old ∈ w.server.committed.memories, isLive old = true →
    ∃ new ∈ w'.server.committed.memories, new.id = old.id ∧ isLive new = true ∧
      new.vectorKey = old.vectorKey
  read : ∀ j ≠ i, (watch j w'.log).read = (watch j w.log).read

/-- What a call may rely on. -/
def SyncReady (i : ι) (op : Op) (w : World ι) : Prop :=
  match op with
  | .sql (.insertMemory row) => row.syncedAt = none
  | .sql (.markSynced id _) => ∀ row ∈ (w.visible i).memories, row.id = id → Safe w row.vectorKey
  | .sql (.markDeleted ..) | .sql (.deleteMemories _) => False
  | .sql .selectLiveMemories => w.server.changes i = []
  | .deleteIds vectorNamespace vectorIds => ∀ id ∈ vectorIds, ¬ Safe w (vectorNamespace, id)
  | _ => True

/-! ## Steps -/

section

variable {i j : ι} {op : Op} {delivery : Delivery} {reply : Except PyError op.Reply}
  {w w' : World ι}

theorem watch_append (log : List (ι × Event)) (entry : ι × Event) :
    watch i (log ++ [entry]) = (watch i log).after i entry := by
  unfold watch
  rw [List.foldl_append]
  rfl

namespace SyncInv

/-- What a session sees is committed or its own. -/
theorem visible (h : SyncInv w) {row : AssistantMemoryRecord}
    (hrow : row ∈ (w.visible i).memories) : SameVector w row ∧ Synced w row := by
  rcases mem_visible_memories hrow with hput | hold
  · obtain ⟨_, heq, hsame, hsynced⟩ := h.changes i _ hput
    cases heq
    exact ⟨hsame, hsynced⟩
  · refine ⟨fun old hmem hid => ?_, h.synced row hold⟩
    rw [Table.eq_of_key_eq hmem hold hid]
    exact ⟨rfl, rfl⟩

/-- A session sees every committed record, with its vector and deletion mark. -/
theorem exists_visible (h : SyncInv w) {old : AssistantMemoryRecord}
    (hold : old ∈ w.server.committed.memories) : ∃ row ∈ (w.visible i).memories, row.id = old.id ∧
      old.vectorKey = row.vectorKey ∧ old.deletedAt = row.deletedAt := by
  have hputs : ∀ edit ∈ (w.server.changes i).filterMap Change.memory?, ∃ row, edit = .put row := by
    intro edit hedit
    obtain ⟨row, heq, -⟩ := h.changes i edit ((mem_filterMap_memory? _).mp hedit)
    exact ⟨row, heq⟩
  obtain ⟨row, hrow, hid⟩ := Table.exists_key_of_puts hputs ⟨old, hold, rfl⟩
  have hvisible : row ∈ (w.visible i).memories := by
    unfold World.visible Server.visible
    rw [memories_applyAll]
    exact hrow
  exact ⟨row, hvisible, hid, (h.visible hvisible).1 old hold hid.symm⟩

/-- What a statement writes. -/
theorem of_edit (h : SyncInv w) {stmt : Sql} {edit : Edit AssistantMemoryRecord.id}
    (hready : SyncReady i (.sql stmt) w) (hedit : MemoryEdit (w.visible i) stmt edit) :
    ∃ row, edit = .put row ∧ SameVector w row ∧ Synced w row := by
  cases hedit with
  | @insert row habsent =>
    refine ⟨row, rfl, fun old hold hid => ?_, fun hsynced => ?_⟩
    · obtain ⟨seen, hseen, hsame, -⟩ := h.exists_visible (i := i) hold
      exact absurd (hsame.trans hid) (habsent seen hseen)
    · rw [show row.syncedAt = none from hready] at hsynced
      cases hsynced
  | sources hmem =>
    obtain ⟨hsame, hsynced⟩ := h.visible hmem
    exact ⟨_, rfl, hsame, hsynced⟩
  | synced hmem =>
    have hsafe := hready _ hmem rfl
    exact ⟨_, rfl, (h.visible hmem).1, fun _ _ => hsafe⟩
  | failed hmem =>
    obtain ⟨hsame, hsynced⟩ := h.visible hmem
    exact ⟨_, rfl, hsame, hsynced⟩
  | deleted => exact hready.elim
  | erased => exact hready.elim

/-- A live record stays, with its vector. -/
theorem live (h : SyncInv w) (hexec : exec i op delivery w = some (reply, w'))
    {old : AssistantMemoryRecord} (hold : old ∈ w.server.committed.memories)
    (hlive : isLive old = true) : ∃ new ∈ w'.server.committed.memories, new.id = old.id ∧
      isLive new = true ∧ new.vectorKey = old.vectorKey := by
  rcases ServerInv.committed_cases hexec with hsame | ⟨-, hcommitted, -⟩
  · rw [hsame]
    exact ⟨old, hold, rfl, hlive, rfl⟩
  · rw [hcommitted]
    obtain ⟨new, hnew, hid, hkey, hdeleted⟩ := h.exists_visible (i := i) hold
    refine ⟨new, hnew, hid, ?_, hkey.symm⟩
    unfold isLive at hlive ⊢
    rw [← hdeleted]
    exact hlive

/-- A run that reads the records reads the keys of all that are live. -/
theorem watched (hready : SyncReady i op w) (hexec : exec i op delivery w = some (reply, w'))
    {key : String × String} (hsafe : Safe w key) {keys : List (String × String)}
    (hread : (watch j w'.log).read = some keys) :
    key ∈ keys ∨ key ∈ (watch j w'.log).stored := by
  have hold := hsafe.watched j
  rw [exec_log hexec, watch_append] at hread ⊢
  unfold Watch.after at hread ⊢
  split at hread
  · rename_i rows heq
    cases heq
    dsimp only at hread ⊢
    split at hread
    · cases hread
      obtain ⟨row, hrow, hlive, rfl⟩ := hsafe.live
      obtain ⟨changes, houtcome⟩ := outcome_of_reply hexec
      cases houtcome
      rw [visible_of_nil hready]
      exact Or.inl (List.mem_map_of_mem (List.mem_filter.mpr ⟨hrow, hlive⟩))
    · rename_i hij
      rw [if_neg hij]
      exact hold keys hread
  · rename_i vector _ heq
    cases heq
    exact (hold keys hread).imp_right (List.mem_cons_of_mem _)
  · exact hold keys hread

theorem safe (h : SyncInv w) (hready : SyncReady i op w)
    (hexec : exec i op delivery w = some (reply, w')) {key : String × String} (hsafe : Safe w key) :
    Safe w' key where
  stored := by
    rcases index_cases hexec
      with hsame | ⟨vector, -, hput⟩ | ⟨vectorNamespace, vectorIds, rfl, hdelete⟩
    · rw [hsame]
      exact hsafe.stored
    · rw [hput]
      exact VectorIndex.holds_put.mpr (Or.inr hsafe.stored)
    · rw [hdelete]
      refine VectorIndex.holds_deleteIds.mpr ⟨hsafe.stored, ?_⟩
      intro id hid heq
      exact hready id hid (heq ▸ hsafe)
  live := by
    obtain ⟨row, hrow, hlive, rfl⟩ := hsafe.live
    obtain ⟨new, hnew, -, hlive', hkey⟩ := h.live hexec hrow hlive
    exact ⟨new, hnew, hlive', hkey⟩
  watched _ _ hread := watched hready hexec hsafe hread

theorem of_exec (h : SyncInv w) (hready : SyncReady i op w)
    (hexec : exec i op delivery w = some (reply, w')) : SyncInv w' := by
  have hsynced : ∀ {row : AssistantMemoryRecord}, Synced w row → Synced w' row :=
    fun hrow hset hlive => h.safe hready hexec (hrow hset hlive)
  refine ⟨h.server.of_exec hexec, ?_, ?_⟩
  · intro row hrow
    rcases ServerInv.committed_cases hexec with hsame | ⟨-, hcommitted, -⟩
    · rw [hsame] at hrow
      exact hsynced (h.synced row hrow)
    · rw [hcommitted] at hrow
      exact hsynced (h.visible hrow).2
  · intro j edit hedit
    rcases ServerInv.change_cases hexec hedit with hold | ⟨rfl, stmt, changes, rfl, hexecuted, hnew⟩
    · obtain ⟨row, rfl, hsame, hset⟩ := h.changes j edit hold
      refine ⟨row, rfl, fun old hmem hid => ?_, hsynced hset⟩
      exact hsame old ((h.server.memories_iff_of_pending hexec hold hedit hid).mp hmem) hid
    · obtain ⟨a, houtcome⟩ := hexecuted.outcome
      obtain ⟨row, rfl, hsame, hset⟩ := h.of_edit hready (memoryEdit houtcome hnew)
      refine ⟨row, rfl, fun old hmem hid => ?_, hsynced hset⟩
      rw [hexecuted.committed] at hmem
      exact hsame old hmem hid

theorem guar (h : SyncInv w) (hready : SyncReady i op w)
    (hexec : exec i op delivery w = some (reply, w')) : SyncGuar i w w' where
  changes _ := changes_of_ne hexec
  safe _ := h.safe hready hexec
  live _ := h.live hexec
  read j hj := by
    rw [exec_log hexec, watch_append]
    unfold Watch.after
    split
    · rename_i heq
      cases heq
      rw [if_neg (Ne.symm hj)]
    · rfl
    · rfl

end SyncInv

end

/-! ## Outlines -/

def syncRely : Rely ι PyError Op Op.Reply Delivery (World ι) where
  exec := exec
  cond i op w := sparesStored i op w = true
  inv := SyncInv
  guar := SyncGuar

section

open Prog VectorSyncWorker

variable {i j : ι} {w w' : World ι} {α : Type}

theorem syncTriple {P : World ι → Prop} {op : Op} {R : Except PyError op.Reply → World ι → Prop}
    (hready : ∀ w, SyncInv w → P w → sparesStored i op w = true → SyncReady i op w)
    (hR : ∀ w delivery r w', P w → SyncGuar i w w' → exec i op delivery w = some (r, w') → R r w') :
    Triple syncRely i P op R := by
  intro w delivery r w' hinv hP hcond hexec
  have hstep := hready w hinv hP hcond
  have hguar := hinv.guar hstep hexec
  exact ⟨hinv.of_exec hstep hexec, hguar, hR w delivery r w' hP hguar hexec⟩

/-! ### The calls that add records -/

/-- Operations that delete nothing and mark nothing. -/
def AddsUnsynced : Op → Prop
  | .sql (.insertMemory row) => row.syncedAt = none
  | .sql (.markSynced ..) | .sql (.markDeleted ..) | .sql (.deleteMemories _)
  | .sql .selectLiveMemories | .deleteIds .. => False
  | _ => True

theorem syncReady_of_addsUnsynced {op : Op} (h : AddsUnsynced op) : SyncReady i op w := by
  cases op with
  | sql stmt =>
    cases stmt with
    | insertMemory => exact h
    | markSynced => exact h.elim
    | markDeleted => exact h
    | deleteMemories => exact h
    | selectLiveMemories => exact h.elim
    | _ => trivial
  | deleteIds => exact h.elim
  | _ => trivial

theorem outline_addsUnsynced {p : Action α} (hp : p.Calls AddsUnsynced) :
    Outline syncRely i (fun _ : World ι => True) p (fun _ _ => True) := by
  refine Outline.of_calls (fun op hop => ?_) hp
  exact syncTriple (fun _ _ _ _ => syncReady_of_addsUnsynced hop) (fun _ _ _ _ _ _ _ => trivial)

theorem syncedAt_newRecord {repository : MemoryRecordRepository} {memory : MemoryRecordWrite}
    {memoryId : Uuid} {now : DateTime} {content contentSha256 : String}
    {row : AssistantMemoryRecord}
    (h : repository.newRecord memory memoryId now content contentSha256 = .ok row) :
    row.syncedAt = none := by
  unfold MemoryRecordRepository.newRecord at h
  cases hnamespace : repository.namespaceFor memory.kind with
  | error e =>
    rw [hnamespace] at h
    cases h
  | ok vectorNamespace =>
    rw [hnamespace] at h
    cases h
    rfl

theorem record_addsUnsynced (repository : MemoryRecordRepository) (memory : MemoryRecordWrite)
    (memoryId : Uuid) (now : DateTime) :
    (repository.record memory memoryId now).Calls AddsUnsynced := by
  refine calls_inSession trivial ?_
  show (Prog.ofExcept _ >>= _).Calls AddsUnsynced
  cases hrow : repository.newRecord memory memoryId now memory.content
      (repository.sha256 memory.content) with
  | error e => exact Calls.raise e
  | ok row =>
    have hinsert : (sql (.insertMemory row)).Calls AddsUnsynced :=
      calls_sql (syncedAt_newRecord hrow)
    show (sql (.insertMemory row) >>= _).Calls AddsUnsynced
    exact Calls.bind hinsert (fun _ => Calls.bind (calls_send trivial) (fun _ => Calls.pure _))

theorem recordOrGetUserFact_addsUnsynced (repository : MemoryRecordRepository)
    (memory : MemoryRecordWrite) (memoryId : Uuid) (now : DateTime) :
    (repository.recordOrGetUserFact memory memoryId now).Calls AddsUnsynced :=
  calls_recordOrGetUserFact repository memory memoryId now trivial trivial (fun _ _ _ => trivial)
    (fun _ _ => trivial) (fun _ _ _ => syncedAt_newRecord)

/-! ### Synchronisation -/

/-- A record that a worker has selected is committed and live, with its vector. -/
def Known (w : World ι) (record : AssistantMemoryRecord) : Prop :=
  ∃ old ∈ w.server.committed.memories, old.id = record.id ∧ isLive old = true ∧
    old.vectorKey = record.vectorKey

/-- A record whose vector the worker has stored. -/
def OutcomeSafe (w : World ι) : SyncOutcome → Prop
  | .synced record _ => Known w record ∧ Safe w record.vectorKey
  | .failed .. => True

/-- What the worker knows in its loop: the records that are left, and what came of the others. -/
structure Looping (records : List AssistantMemoryRecord) (outcomes : List SyncOutcome)
    (w : World ι) : Prop where
  known : ∀ record ∈ records, Known w record
  safe : ∀ outcome ∈ outcomes, OutcomeSafe w outcome

theorem Known.of_guar {record : AssistantMemoryRecord} (h : Known w record)
    (hguar : SyncGuar j w w') : Known w' record := by
  obtain ⟨old, hold, hid, hlive, hkey⟩ := h
  obtain ⟨new, hnew, hid', hlive', hkey'⟩ := hguar.live old hold hlive
  exact ⟨new, hnew, hid'.trans hid, hlive', hkey'.trans hkey⟩

theorem OutcomeSafe.of_guar {outcome : SyncOutcome} (h : OutcomeSafe w outcome)
    (hguar : SyncGuar j w w') : OutcomeSafe w' outcome := by
  cases outcome with
  | synced record syncedAt => exact ⟨h.1.of_guar hguar, hguar.safe _ h.2⟩
  | failed record e => trivial

variable {record : AssistantMemoryRecord} {records : List AssistantMemoryRecord}
  {outcomes : List SyncOutcome}

theorem Looping.of_guar (h : Looping records outcomes w) (hguar : SyncGuar j w w') :
    Looping records outcomes w' where
  known record hrecord := (h.known record hrecord).of_guar hguar
  safe outcome houtcome := (h.safe outcome houtcome).of_guar hguar

theorem stable_looping : Stable syncRely i (Looping (ι := ι) records outcomes) :=
  fun _ _ _ _ _ _ hguar h => h.of_guar hguar

theorem outline_selectUnsynced (batchSize : Nat) :
    Outline syncRely i (fun w : World ι => w.server.changes i = [])
      (sql (.selectUnsyncedForUpdate batchSize)) (okOnly fun records => Looping records []) := by
  refine Outline.perform (fun r => ?_) (syncTriple (fun _ _ _ _ => trivial) ?_)
  · cases r with
    | ok records => exact stable_looping
    | error e => exact stable_const True
  · intro w delivery r w' hnil hguar hexec
    cases r with
    | error e => trivial
    | ok records =>
      obtain ⟨changes, houtcome⟩ := outcome_of_reply hexec
      cases houtcome
      refine ⟨fun record hrecord => ?_, fun outcome h => absurd h List.not_mem_nil⟩
      have hsorted := List.mem_of_mem_filter (List.mem_of_mem_take hrecord)
      obtain ⟨hmem, hlive⟩ := List.mem_filter.mp (List.mem_mergeSort.mp hsorted)
      rw [visible_of_nil hnil] at hmem
      rw [Bool.and_eq_true] at hlive
      have hknown : Known w record := ⟨record, hmem, rfl, hlive.2, rfl⟩
      exact hknown.of_guar hguar

/-- An upsert that returns makes the vector of a record safe: every run that has read the records
before sees that it was stored since. -/
theorem safe_of_upsert {delivery : Delivery} (hknown : Known w record) (hguar : SyncGuar i w w')
    (hexec : exec i (.upsert (storedVector record)) delivery w = some (.ok (), w')) :
    Safe w' record.vectorKey where
  stored := holds_of_upsert hexec
  live := by
    obtain ⟨new, hnew, -, hlive, hkey⟩ := hknown.of_guar hguar
    exact ⟨new, hnew, hlive, hkey⟩
  watched j keys _ := by
    rw [exec_log hexec, watch_append]
    exact Or.inr List.mem_cons_self

theorem outline_syncRecord (syncedAt : DateTime) :
    Outline syncRely i (Looping (ι := ι) (record :: records) outcomes) (syncRecord record syncedAt)
      (okOnly fun outcome => Looping records (outcomes ++ [outcome])) := by
  have hstored : Outline syncRely i (Looping (ι := ι) (record :: records) outcomes)
      (do
        send (.embed record.content)
        send (.upsert (storedVector record)))
      (fun r w => Looping (record :: records) outcomes w ∧
        ∀ stored, r = .ok stored → Safe w record.vectorKey) := by
    refine Outline.bind (Q := fun _ => Looping (record :: records) outcomes) ?_ (fun _ => ?_) ?_
    · refine Outline.perform (fun _ => stable_looping) (syncTriple (fun _ _ _ _ => trivial) ?_)
      exact fun _ _ _ _ hlooping hguar _ => hlooping.of_guar hguar
    · refine Outline.perform (fun r => ?_) (syncTriple (fun _ _ _ _ => trivial) ?_)
      · intro w w' j hj hinv hinv' hguar h
        exact ⟨h.1.of_guar hguar, fun stored heq => hguar.safe _ (h.2 stored heq)⟩
      · intro w delivery r w' hlooping hguar hexec
        refine ⟨hlooping.of_guar hguar, ?_⟩
        rintro stored rfl
        exact safe_of_upsert (hlooping.known record List.mem_cons_self) hguar hexec
    · exact fun e w _ hlooping => ⟨hlooping, fun stored h => nomatch h⟩
  have hdrop : ∀ {w : World ι}, Looping (record :: records) outcomes w → ∀ outcome,
      OutcomeSafe w outcome → Looping records (outcomes ++ [outcome]) w := by
    intro w hlooping outcome hsafe
    refine ⟨fun other hother => hlooping.known other (List.mem_cons_of_mem _ hother), ?_⟩
    intro other hother
    rcases List.mem_append.mp hother with hold | hnew
    · exact hlooping.safe other hold
    · rw [List.mem_singleton.mp hnew]
      exact hsafe
  refine hstored.attemptOk.bindOk (fun result => ?_)
  cases result with
  | ok stored =>
    refine Outline.pure (fun w _ h => hdrop h.1 _ ?_)
    exact ⟨h.1.known record List.mem_cons_self, h.2 stored rfl⟩
  | error e =>
    dsimp only
    split
    · refine Outline.bindOk (Q := fun _ => Looping (record :: records) outcomes)
        (Outline.ofExcept ?_) (fun _ => ?_)
      · intro w _ h
        cases backoff (record.syncRetryCount + 1) with
        | ok _ => exact h.1
        | error e => trivial
      · exact Outline.pure (fun w _ hlooping => hdrop hlooping _ trivial)
    · exact Outline.raise (fun _ _ _ => trivial)

theorem outline_flushOutcome {outcome : SyncOutcome} (houtcome : outcome ∈ outcomes) :
    Outline syncRely i (Looping (ι := ι) [] outcomes) (flushOutcome outcome)
      (okOnly fun _ => Looping [] outcomes) := by
  have hflush : ∀ stmt : Sql, ∀ hreply : stmt.Reply = Nat,
      (∀ w : World ι, SyncInv w → Looping [] outcomes w → SyncReady i (.sql stmt) w) →
      Outline syncRely i (Looping (ι := ι) [] outcomes) (sql stmt)
        (okOnly fun _ => Looping [] outcomes) := by
    intro stmt _ hready
    refine Outline.perform (fun r => ?_) (syncTriple (fun w hinv h _ => hready w hinv h) ?_)
    · cases r with
      | ok _ => exact stable_looping
      | error e => exact stable_const True
    · intro w delivery r w' hlooping hguar _
      cases r with
      | ok _ => exact hlooping.of_guar hguar
      | error e => trivial
  have hmatched : ∀ matched : Nat, Outline syncRely i (Looping (ι := ι) [] outcomes)
      (if matched = 1 then return () else Prog.raise staleDataError : Action Unit)
      (okOnly fun _ => Looping [] outcomes) := by
    intro matched
    split
    · exact Outline.pure (fun _ _ h => h)
    · exact Outline.raise (fun _ _ _ => trivial)
  cases outcome with
  | synced record syncedAt =>
    refine (hflush (.markSynced record.id syncedAt) rfl ?_).bindOk hmatched
    intro w hinv hlooping row hrow hid
    obtain ⟨⟨old, hold, hid', -, hkey⟩, hsafe⟩ := hlooping.safe _ houtcome
    rw [← ((hinv.visible hrow).1 old hold (hid'.trans hid.symm)).1, hkey]
    exact hsafe
  | failed record e =>
    exact (hflush (.recordSyncError record.id _ _) rfl (fun _ _ _ => trivial)).bindOk hmatched

theorem outline_end {P : World ι → Prop} :
    Outline syncRely i P (send .rollback) (fun _ _ => True) :=
  Outline.perform (fun _ => stable_const True)
    (syncTriple (fun _ _ _ _ => trivial) (fun _ _ _ _ _ _ _ => trivial))

theorem outline_syncOnce (worker : VectorSyncWorker) (clock : Uuid → DateTime) :
    Outline syncRely i (fun w : World ι => w.server.changes i = []) (worker.syncOnce clock)
      (fun _ _ => True) := by
  refine outline_closing (Q := fun _ _ => True) ?_ (fun _ => outline_end)
  refine Outline.post (Q := okOnly fun _ _ => True) ?_ (fun _ _ _ _ => trivial)
  refine (outline_selectUnsynced worker.batchSize).bindOk (fun records => ?_)
  have hloop : Outline syncRely i (Looping (ι := ι) records [])
      (Prog.foldEach records [] fun outcomes record => do
        let outcome ← syncRecord record (clock record.id)
        return outcomes ++ [outcome])
      (okOnly fun outcomes => Looping [] outcomes) := by
    refine Outline.foldRest Looping (fun record rest outcomes => ?_) (fun _ _ _ h => h)
    refine (outline_syncRecord (clock record.id)).bind (fun outcome => ?_) (fun _ _ _ _ => trivial)
    exact Outline.pure (fun _ _ h => h)
  refine hloop.bindOk (fun outcomes => ?_)
  refine Outline.bindOk (Q := fun _ => Looping [] outcomes) ?_ (fun _ => ?_)
  · refine Outline.forEach (fun outcome houtcome => ?_) (fun _ _ h => h)
    refine (outline_flushOutcome houtcome).post (fun r w _ h => ?_)
    cases r with
    | ok _ => exact h
    | error e => trivial
  · refine Outline.bindOk (Q := fun _ _ => True) ?_ (fun _ => Outline.pure (fun _ _ _ => trivial))
    refine Outline.perform (fun r => ?_) (syncTriple (fun _ _ _ _ => trivial) ?_)
    · cases r <;> exact stable_const True
    · intro w delivery r w' _ _ _
      cases r <;> trivial

end

/-! ### Reconciliation -/

section

variable {i : ι} {records : List AssistantMemoryRecord}

/-- A run has read the records and goes by them. -/
def HasRead (i : ι) (records : List AssistantMemoryRecord) (w : World ι) : Prop :=
  (watch i w.log).read = some (records.map AssistantMemoryRecord.vectorKey)

theorem stable_hasRead : Stable syncRely i (HasRead i records) :=
  fun _ _ _ hj _ _ hguar h => (hguar.read i (Ne.symm hj)).trans h

/-- A run reads the records once. -/
theorem HasRead.of_exec {op : Op} {delivery : Delivery} {r : Except PyError op.Reply}
    {w w' : World ι} (h : HasRead i records w) (hexec : exec i op delivery w = some (r, w'))
    (hop : op ≠ .sql .selectLiveMemories) : HasRead i records w' := by
  unfold HasRead
  rw [exec_log hexec, watch_append]
  unfold Watch.after
  split
  · rename_i heq
    cases heq
    exact absurd rfl hop
  · exact h
  · exact h

theorem outline_readRecords : Outline syncRely i (fun w : World ι => w.server.changes i = [])
    (inSession (sql .selectLiveMemories)) (okOnly (HasRead i)) := by
  have hselect : Outline syncRely i (fun w : World ι => w.server.changes i = [])
      (sql .selectLiveMemories) (okOnly (HasRead i)) := by
    refine Outline.perform (fun r => ?_) (syncTriple (fun _ _ hnil _ => hnil) ?_)
    · cases r with
      | ok records => exact stable_hasRead
      | error e => exact stable_const True
    · intro w delivery r w' _ _ hexec
      cases r with
      | error e => trivial
      | ok records =>
        show (watch i w'.log).read = _
        rw [exec_log hexec, watch_append]
        exact congrArg Watch.read (if_pos rfl)
  refine outline_closing hselect (fun r => ?_)
  cases r with
  | error e => exact outline_end
  | ok records =>
    refine Outline.perform (fun _ => stable_hasRead) (syncTriple (fun _ _ _ _ => trivial) ?_)
    exact fun _ _ _ _ hread _ hexec => hread.of_exec hexec (by simp)

/-- What a run takes for an orphan is not safe. -/
theorem not_safe_of_orphan {vectorNamespace : String} {listed : List String} {id : String}
    {w : World ι} (hread : HasRead i records w)
    (horphan : id ∈ ReconciliationJob.orphanIds
      (ReconciliationJob.activeIds records vectorNamespace) listed)
    (hspared : (vectorNamespace, id) ∉ (watch i w.log).stored) :
    ¬ Safe w (vectorNamespace, id) := by
  intro hsafe
  have hunread := of_decide_eq_true (List.mem_filter.mp horphan).2
  apply hunread
  obtain ⟨record, hrecord, hkey⟩ :=
    List.mem_map.mp ((hsafe.watched i _ hread).resolve_right hspared)
  obtain ⟨hnamespace, hid⟩ := Prod.mk.inj hkey
  exact List.mem_map.mpr ⟨record, List.mem_filter.mpr ⟨hrecord, decide_eq_true hnamespace⟩, hid⟩

theorem outline_reconcileNamespace (deletedCount : Nat) (vectorNamespace : String) :
    Outline syncRely i (HasRead i records)
      (ReconciliationJob.reconcileNamespace records deletedCount vectorNamespace)
      (fun _ => HasRead i records) := by
  refine Outline.bind (Q := fun _ => HasRead i records) ?_ (fun listed => ?_) (fun _ _ _ h => h)
  · refine Outline.perform (fun _ => stable_hasRead) (syncTriple (fun _ _ _ _ => trivial) ?_)
    exact fun _ _ _ _ hread _ hexec => hread.of_exec hexec (by simp)
  dsimp only
  split
  · exact Outline.pure (fun _ _ hread => hread)
  refine Outline.bind (Q := fun _ => HasRead i records) ?_ (fun _ => Outline.pure (fun _ _ h => h))
    (fun _ _ _ h => h)
  refine Outline.perform (fun _ => stable_hasRead) (syncTriple ?_ ?_)
  · intro w _ hread hcond id hid
    have hspared := of_decide_eq_true (List.all_eq_true.mp hcond id hid)
    exact not_safe_of_orphan hread (List.mem_mergeSort.mp hid) hspared
  · exact fun _ _ _ _ hread _ hexec => hread.of_exec hexec (by simp)

theorem outline_reconcileOnce (job : ReconciliationJob) :
    Outline syncRely i (fun w : World ι => w.server.changes i = []) job.reconcileOnce
      (fun _ _ => True) := by
  refine outline_readRecords.bind (fun records => ?_) (fun _ _ _ _ => trivial)
  refine Outline.foldRest (fun _ _ => HasRead i records) (fun vectorNamespace _ deletedCount => ?_)
    (fun _ _ _ _ => trivial)
  refine (outline_reconcileNamespace deletedCount vectorNamespace).post (fun r _ _ hread => ?_)
  cases r with
  | ok _ => exact hread
  | error e => trivial

end

/-! ## Runs -/

/-- The calls on records that are not deleted. -/
def Call.keepsRecords : Call → Bool
  | record .. | recordOrGetUserFact .. | syncOnce _ | reconcileOnce => true
  | _ => false

theorem outline_keepsRecords {i : ι} (components : Components) {call : Call}
    (hcall : call.keepsRecords = true) :
    Outline syncRely i (fun w : World ι => w.server.changes i = []) (call.program components)
      (fun _ _ => True) := by
  have hreturn : ∀ {α : Type} {p : Action α} {f : α → CallResult},
      Outline syncRely i (fun w : World ι => w.server.changes i = []) p (fun _ _ => True) →
      Outline syncRely i (fun w : World ι => w.server.changes i = []) (p >>= fun a => pure (f a))
        (fun _ _ => True) :=
    fun h => h.bind (fun _ => Outline.pure (fun _ _ _ => trivial)) (fun _ _ _ _ => trivial)
  cases call with
  | record memory memoryId now =>
    refine hreturn (Outline.pre (outline_addsUnsynced ?_) (fun _ _ _ => trivial))
    exact record_addsUnsynced components.repository memory memoryId now
  | recordOrGetUserFact memory memoryId now =>
    refine hreturn (Outline.pre (outline_addsUnsynced ?_) (fun _ _ _ => trivial))
    exact recordOrGetUserFact_addsUnsynced components.repository memory memoryId now
  | syncOnce clock => exact hreturn (outline_syncOnce components.syncWorker clock)
  | reconcileOnce => exact hreturn (outline_reconcileOnce components.reconciliation)
  | _ => cases hcall

theorem SyncInv.idle {tables : Tables} {index : VectorIndex}
    (hstart : ∀ row ∈ tables.memories, row.syncedAt.isSome = true → isLive row = true →
      index.Holds row.vectorKey) : SyncInv (World.idle tables index : World ι) where
  server := .idle _ _
  synced row hrow hsynced hlive :=
    ⟨hstart row hrow hsynced hlive, ⟨row, hrow, hlive, rfl⟩, fun _ _ hread => nomatch hread⟩
  changes _ _ h := absurd h List.not_mem_nil

/-- Any number of calls that record, synchronise and reconcile, from any state in which the
synchronised records have their vectors. Where no run deletes a vector that was stored after its
read, they have them in every state. -/
theorem synced_stored {ι : Type} [DecidableEq ι] (components : Components) (call : ι → Call)
    (hcalls : ∀ i, (call i).keepsRecords = true) {tables : Tables} {index : VectorIndex}
    (hstart : ∀ row ∈ tables.memories, row.syncedAt.isSome = true → isLive row = true →
      index.Holds row.vectorKey)
    {c : System ι} (hsteps : Steps exec (fun i op w => sparesStored i op w = true)
      (System.start components call (World.idle tables index)) c) :
    ∀ row ∈ c.world.server.committed.memories, row.syncedAt.isSome = true → isLive row = true →
      c.world.index.Holds row.vectorKey := by
  have hcovered : Covered syncRely (fun _ _ _ => True)
      (System.start components call (World.idle tables index)) := by
    refine ⟨SyncInv.idle hstart, fun i => ⟨fun w => w.server.changes i = [], ?_, rfl, ?_⟩⟩
    · exact fun _ _ j hj _ _ hguar hnil => (hguar.changes i (Ne.symm hj)).trans hnil
    · exact outline_keepsRecords components (hcalls i)
  have hinv : SyncInv c.world := (hcovered.steps hsteps).inv
  intro row hrow hsynced hlive
  exact (hinv.synced row hrow hsynced hlive).stored

/-! ### A record that is taken for an orphan -/

/-- A chunk of a document is recorded and synchronised while the index is reconciled. -/
def orphaningCalls : Fin 3 → Call
  | 0 => .record {
      kind := "document_chunk"
      content := "Close valve 7 first."
      ownerUserId := none
      siteCode := none
      requiredPermissions := [] } (.ofNat 300) 7
  | 1 => .syncOnce (fun _ => 8)
  | 2 => .reconcileOnce

def orphaningStart : System (Fin 3) :=
  System.start (.wired .ascii id id) orphaningCalls (World.idle .empty .empty)

theorem orphaningCalls_keepsRecords (i : Fin 3) : (orphaningCalls i).keepsRecords = true := by
  fin_cases i <;> rfl

/-- Some steps of each call in turn. -/
def orphaningSchedule (steps : List (Nat × Fin 3)) : List (Fin 3 × Delivery) :=
  steps.flatMap fun (n, i) => List.replicate n (i, .arrives)

/-- Every call has ended, and there is a synchronised record with or without its vector. -/
def endsWith (stored : Bool) (c : System (Fin 3)) : Bool :=
  (List.finRange 3).all (fun i => (c.programs i).isDone) &&
    c.world.server.committed.memories.rows.any fun row =>
    row.syncedAt.isSome && isLive row &&
      c.world.index.rows.any (fun vector => decide (vector.key = row.vectorKey)) == stored

theorem exists_of_endsWith {stored : Bool} {c : System (Fin 3)} (h : endsWith stored c = true) :
    (∀ i, ∃ r, c.programs i = .done r) ∧
    ∃ row ∈ c.world.server.committed.memories, row.syncedAt.isSome = true ∧ isLive row = true ∧
      (c.world.index.Holds row.vectorKey ↔ stored = true) := by
  obtain ⟨hdone, hrecord⟩ := Bool.and_eq_true_iff.mp h
  refine ⟨fun i => ?_, ?_⟩
  · exact Prog.exists_of_isDone (List.all_eq_true.mp hdone i (List.mem_finRange i))
  · obtain ⟨row, hrow, hfacts⟩ := List.any_eq_true.mp hrecord
    rw [Bool.and_eq_true, Bool.and_eq_true, beq_iff_eq] at hfacts
    obtain ⟨⟨hsynced, hlive⟩, hstored⟩ := hfacts
    refine ⟨row, hrow, hsynced, hlive, ?_⟩
    rw [← hstored, List.any_eq_true]
    simp only [decide_eq_true_eq]
    exact Iff.rfl

/-- The reconciliation begins after the synchronisation. -/
theorem synced_stored_chunk : ∃ c : System (Fin 3),
    runSchedule exec (fun i op w => sparesStored i op w = true)
      (orphaningSchedule [(3, 0), (6, 1), (4, 2)]) orphaningStart = some c ∧
    ∃ row ∈ c.world.server.committed.memories, row.syncedAt.isSome = true ∧ isLive row = true ∧
      c.world.index.Holds row.vectorKey := by
  have hrun : (runSchedule exec (fun i op w => sparesStored i op w = true)
      (orphaningSchedule [(3, 0), (6, 1), (4, 2)]) orphaningStart).any (endsWith true) = true := by
    decide +kernel
  obtain ⟨c, hc, hends⟩ := (Option.any_eq_true _ _).mp hrun
  obtain ⟨-, row, hrow, hsynced, hlive, -⟩ := exists_of_endsWith hends
  exact ⟨c, hc, row, hrow, hsynced, hlive, synced_stored (.wired .ascii id id) orphaningCalls
    orphaningCalls_keepsRecords (fun row hrow => absurd hrow (Table.not_mem_empty row))
    (steps_of_runSchedule hc) row hrow hsynced hlive⟩

/-- The record is inserted and synchronised after the run has read the records and before it lists
the index. -/
theorem synced_orphaned : ¬ ∀ (components : Components) (call : Fin 3 → Call) (tables : Tables)
    (index : VectorIndex) (c : System (Fin 3)), (∀ i, (call i).keepsRecords = true) →
    (∀ row ∈ tables.memories, row.syncedAt.isSome = true → isLive row = true →
      index.Holds row.vectorKey) →
    Steps exec always (System.start components call (World.idle tables index)) c →
    (∀ i, ∃ r, c.programs i = .done r) →
    ∀ row ∈ c.world.server.committed.memories, row.syncedAt.isSome = true → isLive row = true →
      c.world.index.Holds row.vectorKey := by
  intro hclaim
  have hrun : (runSchedule exec always (orphaningSchedule [(2, 2), (3, 0), (6, 1), (3, 2)])
      orphaningStart).any (endsWith false) = true := by
    decide +kernel
  obtain ⟨c, hc, hends⟩ := (Option.any_eq_true _ _).mp hrun
  obtain ⟨hdone, row, hrow, hsynced, hlive, hholds⟩ := exists_of_endsWith hends
  have hstored := hclaim (.wired .ascii id id) orphaningCalls .empty .empty c
    orphaningCalls_keepsRecords (fun row hrow => absurd hrow (Table.not_mem_empty row))
    (steps_of_runSchedule hc) hdone row hrow hsynced hlive
  exact absurd (hholds.mp hstored) (by decide)

end HotAirBalloon.Memory
