import HotAirBalloon.Memory.Erasure

/-!
# The foreign key of promoted candidates

A fact candidate refers to the record it was promoted to, and the key has no `ON DELETE`. The two
jobs that delete records delete their vectors first; they complete exactly when no candidate refers
to a record that they are about to delete, and otherwise they leave the record without its vector.
-/

namespace HotAirBalloon.Memory

open Python Library

variable {ι : Type} {i : ι} {t v : Tables} {x : VectorIndex} {w : World ι}

/-! ## What the retention job deletes -/

/-- A record that is marked as deleted, if it exists. -/
def markDeletedRow (now : DateTime) (t : Tables) (row : AssistantMemoryRecord) : Tables :=
  match t.memories.find? row.id with
  | none => t
  | some found => { t with memories := t.memories.put { found with deletedAt := some now } }

/-- The tables after the oldest expired records have been marked as deleted. -/
def softDeletedTables (batchSize : Nat) (now : DateTime) (t : Tables) : Tables :=
  ((expiredMemories now t).take batchSize).foldl (markDeletedRow now) t

/-- The records that the retention job deletes. -/
def purgedRecords (batchSize : Nat) (now : DateTime) (t : Tables) : List AssistantMemoryRecord :=
  (deletedMemories (softDeletedTables batchSize now t)).take batchSize

theorem candidates_foldl_markDeletedRow (now : DateTime) (rows : List AssistantMemoryRecord)
    (t : Tables) : (rows.foldl (markDeletedRow now) t).candidates = t.candidates := by
  induction rows generalizing t with
  | nil => rfl
  | cons row rest ih =>
    refine (ih _).trans ?_
    unfold markDeletedRow
    split <;> rfl

theorem exists_markDeletedRow {now : DateTime} {row : AssistantMemoryRecord} {id : Uuid}
    (h : ∃ found ∈ t.memories, found.id = id) :
    ∃ found ∈ (markDeletedRow now t row).memories, found.id = id := by
  obtain ⟨found, hfound, hid⟩ := h
  unfold markDeletedRow
  split
  · exact ⟨found, hfound, hid⟩
  · rename_i found' hfind
    by_cases heq : found.id = found'.id
    · exact ⟨_, Table.mem_put.mpr (.inl rfl), heq.symm.trans hid⟩
    · exact ⟨found, Table.mem_put.mpr (.inr ⟨hfound, heq⟩), hid⟩

theorem exists_foldl_markDeletedRow (now : DateTime) (rows : List AssistantMemoryRecord) {id : Uuid}
    (h : ∃ found ∈ t.memories, found.id = id) :
    ∃ found ∈ (rows.foldl (markDeletedRow now) t).memories, found.id = id := by
  induction rows generalizing t with
  | nil => exact h
  | cons row rest ih => exact ih (exists_markDeletedRow h)

theorem selectMemoriesForUpdate_alone (rows : List AssistantMemoryRecord) (batchSize : Nat) :
    (selectMemoriesForUpdate (fun _ _ => false) rows batchSize).outcome =
      .ok (rows.take batchSize, []) := by
  unfold selectMemoriesForUpdate writeEffect
  simp

theorem selectExpired_alone (now : DateTime) (batchSize : Nat) (t : Tables) :
    ((Sql.selectExpiredMemoriesForUpdate now batchSize).alone t).outcome =
      .ok ((expiredMemories now t).take batchSize, []) :=
  selectMemoriesForUpdate_alone _ _

theorem selectDeleted_alone (batchSize : Nat) (t : Tables) :
    ((Sql.selectDeletedMemoriesForUpdate batchSize).alone t).outcome =
      .ok ((deletedMemories t).take batchSize, []) :=
  selectMemoriesForUpdate_alone _ _

theorem mem_of_mem_expiredMemories {now : DateTime} {row : AssistantMemoryRecord}
    (h : row ∈ expiredMemories now t) : row ∈ t.memories :=
  (List.mem_filter.mp (List.mem_mergeSort.mp h)).1

theorem mem_of_mem_deletedMemories {row : AssistantMemoryRecord} (h : row ∈ deletedMemories t) :
    row ∈ t.memories :=
  (List.mem_filter.mp (List.mem_mergeSort.mp h)).1

variable [DecidableEq ι]

theorem markDeleted_alone (now : DateTime) {row found : AssistantMemoryRecord}
    (hfound : v.memories.find? row.id = some found) :
    ((Sql.markDeleted row.id now).alone v).outcome =
        .ok (1, [.memory (.put { found with deletedAt := some now })]) ∧
      v.after [.memory (.put { found with deletedAt := some now })] = markDeletedRow now v row := by
  constructor
  · unfold Sql.alone Sql.effect updateMemory
    dsimp only
    rw [hfound]
    rfl
  · unfold markDeletedRow
    rw [hfound]
    rfl

/-- The first phase of the retention job. -/
theorem softDeleteExpired_alone (job : MemoryRetentionJob) (now : DateTime) (h : Alone i t t x w) :
    FinishesAlone i (job.softDeleteExpired now) w (fun r w' => (∃ n, r = .ok n) ∧
      Alone i (softDeletedTables job.batchSize now t)
        (softDeletedTables job.batchSize now t) x w') := by
  refine (Alone.inSession (fun r t' x' => (∃ n, r = .ok n) ∧
    t' = softDeletedTables job.batchSize now t ∧ x' = x) ?_).post ?_
  · refine (h.sql (selectExpired_alone now job.batchSize t)).bind ?_ (fun e w' hQ => by cases hQ.1)
    rintro rows w₁ ⟨heq, h₁⟩
    cases heq
    split
    · rename_i hempty
      refine Finishes.pure ⟨_, _, x, ⟨⟨0, rfl⟩, ?_, rfl⟩, h₁⟩
      unfold softDeletedTables
      rw [List.isEmpty_iff.mp hempty]
      rfl
    · have hmarks : FinishesAlone i (Prog.forEach ((expiredMemories now t).take job.batchSize)
          fun row => flushUpdate (sql (.markDeleted row.id now))) w₁
          (fun r w' => r = .ok () ∧ Alone i t (softDeletedTables job.batchSize now t) x w') := by
        refine Finishes.forEach (fun done w => Alone i t (done.foldl (markDeletedRow now) t) x w) []
          h₁ ?_ (fun w' h => ⟨rfl, h⟩)
        intro done row w h hrow
        obtain ⟨found, hfound, hid⟩ := exists_foldl_markDeletedRow now done
          ⟨row, mem_of_mem_expiredMemories (List.mem_of_mem_take hrow), rfl⟩
        obtain ⟨houtcome, hafter⟩ := markDeleted_alone now
          (Table.find?_eq_some_iff.mpr ⟨hfound, hid⟩)
        refine (h.sql houtcome).bind ?_ (fun e w' hQ => by cases hQ.1)
        rintro matched w' ⟨heq, h'⟩
        cases heq
        refine Finishes.pure ⟨rfl, ?_⟩
        rw [hafter] at h'
        rw [List.foldl_append]
        exact h'
      refine hmarks.bind ?_ (fun e w' hQ => by cases hQ.1)
      rintro _ w₂ ⟨-, h₂⟩
      refine h₂.commit.bind ?_ (fun e w' hQ => by cases hQ.1)
      rintro _ w₃ ⟨-, h₃⟩
      exact Finishes.pure ⟨_, _, x, ⟨⟨_, rfl⟩, rfl, rfl⟩, h₃⟩
  · rintro r w' ⟨t', x', ⟨hok, rfl, rfl⟩, halone⟩
    exact ⟨hok, halone⟩

omit [DecidableEq ι] in
/-- Whether a candidate refers to some rows depends on their ids. -/
theorem referenced_congr {records records' : List AssistantMemoryRecord}
    (h : ∀ id, id ∈ records.map (·.id) ↔ id ∈ records'.map (·.id)) :
    referenced records t = referenced records' t := by
  unfold referenced
  congr 1
  funext candidate
  rw [Bool.eq_iff_iff]
  simp only [List.any_eq_true, decide_eq_true_iff, List.mem_map] at h ⊢
  constructor
  · rintro ⟨row, hrow, heq⟩
    obtain ⟨row', hrow', hid⟩ := (h row.id).mp ⟨row, hrow, rfl⟩
    exact ⟨row', hrow', by rw [heq, hid]⟩
  · rintro ⟨row, hrow, heq⟩
    obtain ⟨row', hrow', hid⟩ := (h row.id).mpr ⟨row, hrow, rfl⟩
    exact ⟨row', hrow', by rw [heq, hid]⟩

theorem deleteMemories_ids_alone {records : List AssistantMemoryRecord}
    (hrecords : ∀ record ∈ records, record ∈ t.memories) {ids : List Uuid}
    (hids : ∀ id, id ∈ ids ↔ id ∈ records.map (·.id)) :
    (referenced records t = true →
      ((Sql.deleteMemories ids).alone t).outcome = .error promotedRecordError) ∧
    (referenced records t = false →
      ∃ n changes, ((Sql.deleteMemories ids).alone t).outcome = .ok (n, changes) ∧
        t.after changes = t.withoutMemories (records.map (·.id))) := by
  have hrows : referenced (t.memories.rows.filter (fun row => row.id ∈ ids)) t =
      referenced records t := by
    refine referenced_congr fun id => ?_
    rw [List.mem_map, ← hids]
    constructor
    · rintro ⟨row, hrow, rfl⟩
      exact of_decide_eq_true (List.mem_filter.mp hrow).2
    · intro hid
      obtain ⟨record, hrecord, rfl⟩ := List.mem_map.mp ((hids id).mp hid)
      exact ⟨record, List.mem_filter.mpr ⟨hrecords record hrecord, by simpa using hid⟩, rfl⟩
  unfold Sql.alone Sql.effect deleteMemories
  dsimp only
  rw [hrows]
  refine ⟨fun h => by rw [if_pos h]; rfl, fun h => ⟨_, _, if_neg (by simp [h]), ?_⟩⟩
  refine (after_eraseMemories _).trans ?_
  unfold Tables.withoutMemories
  congr 1
  refine Table.filter_congr fun row _ => ?_
  simp only [hids]

/-- The selection of the second phase. -/
theorem selectBatch_alone (batchSize : Nat) (h : Alone i t t x w) :
    FinishesAlone i (inSession (sql (.selectDeletedMemoriesForUpdate batchSize))) w
      (fun r w' => r = .ok ((deletedMemories t).take batchSize) ∧ Alone i t t x w') := by
  refine (Alone.inSession (fun r t' x' =>
    r = .ok ((deletedMemories t).take batchSize) ∧ t' = t ∧ x' = x) ?_).post ?_
  · refine (h.sql (selectDeleted_alone batchSize t)).post ?_
    rintro r w' ⟨rfl, halone⟩
    exact ⟨t, _, x, ⟨rfl, rfl, rfl⟩, halone⟩
  · rintro r w' ⟨t', x', ⟨rfl, rfl, rfl⟩, halone⟩
    exact ⟨rfl, halone⟩

/-- The end of the second phase: the rows go, unless a candidate refers to one of them. -/
theorem deleteRows_alone {records : List AssistantMemoryRecord}
    (hrecords : ∀ record ∈ records, record ∈ t.memories) (h : Alone i t t x w) :
    FinishesAlone i (inSession do
        let _ ← sql (.deleteMemories
          ((groupByNamespace records).flatMap (fun group => group.2.map (·.id))))
        send .commit) w (fun r w' =>
      if referenced records t then r = .error promotedRecordError ∧ Alone i t t x w'
      else r = .ok () ∧ Alone i (t.withoutMemories (records.map (·.id)))
        (t.withoutMemories (records.map (·.id))) x w') := by
  obtain ⟨hfails, hdeletes⟩ :=
    deleteMemories_ids_alone hrecords (fun id => @mem_deletableRowIds records id)
  cases hreferenced : referenced records t with
  | true =>
    refine (Alone.inSession (fun r t' x' => r = .error promotedRecordError ∧ t' = t ∧ x' = x)
      ?_).post ?_
    · refine (h.sql_error (hfails hreferenced)).bind ?_ ?_
      · rintro a w' ⟨heq, -⟩
        cases heq
      · rintro e w' ⟨heq, halone⟩
        cases heq
        exact ⟨t, t, x, ⟨rfl, rfl, rfl⟩, halone⟩
    · rintro r w' ⟨t', x', ⟨rfl, rfl, rfl⟩, halone⟩
      exact ⟨rfl, halone⟩
  | false =>
    obtain ⟨deleted, changes, houtcome, hafter⟩ := hdeletes hreferenced
    refine (Alone.inSession (fun r t' x' => r = .ok () ∧
      t' = t.withoutMemories (records.map (·.id)) ∧ x' = x) ?_).post ?_
    · refine (h.sql houtcome).bind ?_ (fun e w' hQ => by cases hQ.1)
      rintro _ w' ⟨-, halone⟩
      rw [hafter] at halone
      refine halone.commit.post ?_
      rintro _ w'' ⟨rfl, halone⟩
      exact ⟨_, _, x, ⟨rfl, rfl, rfl⟩, halone⟩
    · rintro r w' ⟨t', x', ⟨rfl, rfl, rfl⟩, halone⟩
      exact ⟨rfl, halone⟩

/-- The second phase of the retention job: the vectors go, then the rows unless a candidate refers
to one of them. -/
theorem deleteSoftDeletedBatch_alone (job : MemoryRetentionJob) (h : Alone i t t x w) :
    FinishesAlone i job.deleteSoftDeletedBatch w (fun r w' =>
      if referenced ((deletedMemories t).take job.batchSize) t then
        r = .error promotedRecordError ∧
          Alone i t t (x.without ((deletedMemories t).take job.batchSize)) w'
      else ∃ counts t' x', r = .ok counts ∧ Alone i t' t' x' w') := by
  refine (selectBatch_alone job.batchSize h).bind ?_ (fun e w' hQ => by cases hQ.1)
  rintro rows w₁ ⟨heq, h₁⟩
  cases heq
  split
  · rename_i hempty
    have hnone : referenced ((deletedMemories t).take job.batchSize) t = false := by
      rw [List.isEmpty_iff.mp hempty]
      simp [referenced]
    rw [hnone]
    exact Finishes.pure ⟨_, t, x, rfl, h₁⟩
  refine (h₁.deleteVectors _).bind ?_ (fun e w' hQ => by obtain ⟨_, heq, -⟩ := hQ; cases heq)
  rintro n w₂ ⟨_, -, h₂⟩
  have hrecords : ∀ record ∈ (deletedMemories t).take job.batchSize, record ∈ t.memories :=
    fun record hrecord => mem_of_mem_deletedMemories (List.mem_of_mem_take hrecord)
  refine (deleteRows_alone hrecords h₂).bind ?_ ?_
  · intro _ w₃ hQ
    cases hreferenced : referenced ((deletedMemories t).take job.batchSize) t with
    | true =>
      rw [if_pos hreferenced] at hQ
      cases hQ.1
    | false =>
      rw [if_neg (by simp [hreferenced])] at hQ
      exact Finishes.pure ⟨_, _, _, rfl, hQ.2⟩
  · intro e w₃ hQ
    cases hreferenced : referenced ((deletedMemories t).take job.batchSize) t with
    | true =>
      rw [if_pos hreferenced] at hQ
      obtain ⟨heq, h₃⟩ := hQ
      cases heq
      rw [if_pos rfl]
      exact ⟨rfl, h₃⟩
    | false =>
      rw [if_neg (by simp [hreferenced])] at hQ
      cases hQ.1

/-- The third phase of the retention job. -/
theorem deleteExpiredCandidates_alone (job : MemoryRetentionJob) (now : DateTime)
    (h : Alone i t t x w) :
    FinishesAlone i (job.deleteExpiredCandidates now) w
      (fun r w' => ∃ t' x', ((∃ n, r = .ok n) ∧ t'.memories = t.memories) ∧
        Alone i t' t' x' w') := by
  refine Alone.inSession (fun r t' _ => (∃ n, r = .ok n) ∧ t'.memories = t.memories) ?_
  have hselect : ((Sql.selectExpiredCandidatesForUpdate now job.batchSize).alone t).outcome =
      .ok ((expiredCandidates now t).take job.batchSize, []) := by
    unfold Sql.alone Sql.effect selectCandidatesForUpdate writeEffect
    simp
  refine (h.sql hselect).bind ?_ (fun e w' hQ => by cases hQ.1)
  rintro candidates w₁ ⟨-, h₁⟩
  have hdeletes : FinishesAlone i (Prog.forEach candidates fun candidate => do
      let _ ← sql (.deleteCandidate candidate.id)) w₁
      (fun r w' => r = .ok () ∧ ∃ v, v.memories = t.memories ∧ Alone i t v x w') := by
    refine Finishes.forEach (fun _ w => ∃ v, v.memories = t.memories ∧ Alone i t v x w) []
      ⟨_, rfl, h₁⟩ ?_ (fun w' h => ⟨rfl, h⟩)
    rintro _ candidate w ⟨v, hmemories, h⟩ _
    obtain ⟨n, changes, houtcome, hsame⟩ : ∃ n changes,
        ((Sql.deleteCandidate candidate.id).alone v).outcome = .ok (n, changes) ∧
          (v.after changes).memories = v.memories := by
      unfold Sql.alone Sql.effect deleteCandidate
      dsimp only
      split
      · exact ⟨_, _, rfl, rfl⟩
      · exact ⟨_, _, rfl, rfl⟩
    refine (h.sql houtcome).bind ?_ (fun e w' hQ => by cases hQ.1)
    rintro _ w' ⟨-, h'⟩
    exact Finishes.pure ⟨rfl, _, hsame.trans hmemories, h'⟩
  refine hdeletes.bind ?_ (fun e w' hQ => by cases hQ.1)
  rintro _ w₂ ⟨-, v, hmemories, h₂⟩
  refine h₂.commit.bind ?_ (fun e w' hQ => by cases hQ.1)
  rintro _ w₃ ⟨-, h₃⟩
  exact Finishes.pure ⟨_, _, _, ⟨⟨_, rfl⟩, hmemories⟩, h₃⟩

omit [DecidableEq ι] in
theorem referenced_softDeletedTables (batchSize : Nat) (now : DateTime)
    (records : List AssistantMemoryRecord) (t : Tables) :
    referenced records (softDeletedTables batchSize now t) = referenced records t := by
  unfold referenced
  rw [softDeletedTables, candidates_foldl_markDeletedRow]

theorem purgeOnce_referenced (job : MemoryRetentionJob) (now : DateTime) (h : Alone i t t x w)
    (hreferenced : referenced (purgedRecords job.batchSize now t) t = true) :
    FinishesAlone i (job.purgeOnce now) w (fun r w' => r = .error promotedRecordError ∧
      Alone i (softDeletedTables job.batchSize now t) (softDeletedTables job.batchSize now t)
        (x.without (purgedRecords job.batchSize now t)) w') := by
  rw [← referenced_softDeletedTables job.batchSize now] at hreferenced
  refine (softDeleteExpired_alone job now h).bind ?_
    (fun e w' hQ => by obtain ⟨⟨_, heq⟩, -⟩ := hQ; cases heq)
  rintro n w₁ ⟨-, h₁⟩
  refine (deleteSoftDeletedBatch_alone job h₁).bind ?_ ?_
  · intro counts w₂ hQ
    rw [purgedRecords] at hreferenced
    rw [if_pos hreferenced] at hQ
    cases hQ.1
  · intro e w₂ hQ
    rw [purgedRecords] at hreferenced ⊢
    rw [if_pos hreferenced] at hQ
    cases hQ.1
    exact ⟨rfl, hQ.2⟩

theorem purgeOnce_alone (job : MemoryRetentionJob) (now : DateTime) (h : Alone i t t x w)
    (hreferenced : referenced (purgedRecords job.batchSize now t) t = false) :
    FinishesAlone i (job.purgeOnce now) w (fun r _ => ∃ result, r = .ok result) := by
  rw [← referenced_softDeletedTables job.batchSize now] at hreferenced
  refine (softDeleteExpired_alone job now h).bind ?_
    (fun e w' hQ => by obtain ⟨⟨_, heq⟩, -⟩ := hQ; cases heq)
  rintro n w₁ ⟨-, h₁⟩
  rw [purgedRecords] at hreferenced
  refine (deleteSoftDeletedBatch_alone job h₁).bind ?_ ?_
  · intro counts w₂ hQ
    rw [if_neg (by simp [hreferenced])] at hQ
    obtain ⟨_, t', x', -, h₂⟩ := hQ
    refine (deleteExpiredCandidates_alone job now h₂).bind ?_
      (fun e w' hQ => by obtain ⟨_, _, ⟨⟨_, heq⟩, -⟩, -⟩ := hQ; cases heq)
    rintro m w₃ -
    exact Finishes.pure ⟨_, rfl⟩
  · intro e w₂ hQ
    rw [if_neg (by simp [hreferenced])] at hQ
    obtain ⟨_, _, _, heq, -⟩ := hQ
    cases heq

/-! ## When the two jobs complete -/

/-- A call that runs alone ends and raises nothing. -/
def Completes (i : ι) (p : Action CallResult) (w : World ι) : Prop :=
  ∃ result w', p.run exec i .arrives w = some (.ok result, w')

theorem completes_of_finishes {α : Type} {p : Action α} {f : α → CallResult}
    (h : FinishesAlone i p w (fun r _ => ∃ a, r = .ok a)) :
    Completes i (p >>= fun a => pure (f a)) w := by
  have hbind :
      FinishesAlone i (p >>= fun a => pure (f a)) w (fun r _ => ∃ result, r = .ok result) := by
    refine h.bind ?_ (fun e w' hQ => by obtain ⟨_, heq⟩ := hQ; cases heq)
    exact fun a w' _ => Finishes.pure ⟨_, rfl⟩
  obtain ⟨r, w', hrun, result, rfl⟩ := hbind
  exact ⟨result, w', hrun⟩

theorem not_completes_of_finishes {α : Type} {p : Action α} {f : α → CallResult} {e : PyError}
    {Q : World ι → Prop} (h : FinishesAlone i p w (fun r w' => r = .error e ∧ Q w')) :
    ¬ Completes i (p >>= fun a => pure (f a)) w := by
  have hbind : FinishesAlone i (p >>= fun a => pure (f a)) w (fun r _ => r = .error e) := by
    refine h.bind ?_ ?_
    · rintro a w' ⟨heq, -⟩
      cases heq
    · rintro e' w' ⟨heq, -⟩
      cases heq
      rfl
  obtain ⟨r, w', hrun, rfl⟩ := hbind
  rintro ⟨result, w'', hrun'⟩
  cases hrun.symm.trans hrun'

/-- Erasure and retention complete exactly when no candidate refers to a record that they delete. -/
theorem deletion_completes_iff (i : ι) (components : Components) (t : Tables) (x : VectorIndex)
    (log : List (ι × Event)) :
    (∀ ownerUserId, Completes i ((Call.eraseUserMemory ownerUserId).program components)
      ⟨.idle t, x, log⟩ ↔ referenced (erasedRecords ownerUserId t) t = false) ∧
    ∀ now, Completes i ((Call.purgeOnce now).program components) ⟨.idle t, x, log⟩ ↔
      referenced (purgedRecords components.memoryRetention.batchSize now t) t = false := by
  have hstart : Alone i t t x ⟨.idle t, x, log⟩ := Alone.start i log
  constructor
  · intro ownerUserId
    cases hreferenced : referenced (erasedRecords ownerUserId t) t with
    | true =>
      have hfails := eraseUserMemory_referenced components.eraser ownerUserId hstart hreferenced
      simp only [reduceCtorEq, iff_false]
      exact not_completes_of_finishes hfails
    | false =>
      have hcompletes := eraseUserMemory_alone components.eraser ownerUserId hstart hreferenced
      simp only [iff_true]
      exact completes_of_finishes (hcompletes.post fun r w' hQ => hQ.1)
  · intro now
    cases hreferenced : referenced (purgedRecords components.memoryRetention.batchSize now t) t with
    | true =>
      have hfails := purgeOnce_referenced components.memoryRetention now hstart hreferenced
      simp only [reduceCtorEq, iff_false]
      exact not_completes_of_finishes hfails
    | false =>
      have hcompletes := purgeOnce_alone components.memoryRetention now hstart hreferenced
      simp only [iff_true]
      exact completes_of_finishes hcompletes

/-! ### A promoted preference -/

/-- A fact that is extracted from a turn, promoted and synchronised. -/
def promotedFact : List Call := [
  .append (.ofNat 1) ⟨"user", "Metric units, please.", 5⟩ (.ofNat 10) (.ofNat 100),
  .recordOutcome (.ofNat 1) (.ofNat 10)
    ⟨"The operator prefers metric units.", "preference", [.ofNat 100], [], true⟩
    "accepted" "accepted"
    (.ofNat 200) 6,
  .recordOrGetUserFact {
    kind := "conversation_summary"
    content := "The operator prefers metric units."
    ownerUserId := some (.ofNat 10)
    siteCode := none
    requiredPermissions := []
    sourceTurnIds := [.ofNat 100] } (.ofNat 300) 7,
  .markPromoted (.ofNat 200) (.ofNat 300),
  .syncOnce (fun _ => 8)]

def promotedComponents : Components :=
  .wired .ascii (fun _ => "13144e74d694dfe96c43dc1c4eee8d163b828a80a4fb28bc439c5335d8ad3d61") id

/-- The state after the promotion, and the erasure of the user. -/
def promotedRun : Option (World Unit × Except PyError CallResult × World Unit) :=
  (runAlone promotedComponents promotedFact (World.idle .empty .empty)).bind fun w =>
    (((Call.eraseUserMemory (.ofNat 10)).program promotedComponents).run exec () .arrives w).map
      fun (r, w') => (w, r, w')

/-- The vector of the promoted fact is deleted, and its row is not. -/
theorem eraseUserMemory_loses_vector : ∃ w e w',
    runAlone promotedComponents promotedFact (World.idle .empty .empty) = some w ∧
    ((Call.eraseUserMemory (.ofNat 10)).program promotedComponents).run exec () .arrives w =
      some (.error e, w') ∧ e = promotedRecordError ∧
    ∃ record ∈ w'.server.committed.memories, record.deletedAt = none ∧ record.syncedAt = some 8 ∧
      (∃ vector ∈ w.index, vector.key = record.vectorKey) ∧
      ∀ vector ∈ w'.index, vector.key ≠ record.vectorKey := by
  have hrun : promotedRun.any (fun (w, r, w') =>
      (match r with
        | .error e => decide (e = promotedRecordError)
        | .ok _ => false) &&
      w'.server.committed.memories.rows.any (fun record =>
        record.deletedAt = none ∧ record.syncedAt = some 8 ∧
        w.index.rows.any (fun vector => vector.key = record.vectorKey) ∧
        w'.index.rows.all (fun vector => vector.key ≠ record.vectorKey))) := by
    decide +kernel
  rw [Option.any_eq_true] at hrun
  obtain ⟨⟨w, r, w'⟩, hsome, hleft⟩ := hrun
  unfold promotedRun at hsome
  rw [Option.bind_eq_some_iff] at hsome
  obtain ⟨w₀, hcalls, hrest⟩ := hsome
  rw [Option.map_eq_some_iff] at hrest
  obtain ⟨⟨r₀, w₁⟩, herase, heq⟩ := hrest
  cases heq
  rw [Bool.and_eq_true] at hleft
  obtain ⟨herror, hrecords⟩ := hleft
  cases r with
  | ok result => cases herror
  | error e =>
    obtain ⟨record, hrecord, hfacts⟩ := List.any_eq_true.mp hrecords
    rw [decide_eq_true_iff] at hfacts
    obtain ⟨hlive, hsynced, hbefore, hafter⟩ := hfacts
    obtain ⟨vector, hvector, hkey⟩ := List.any_eq_true.mp hbefore
    refine ⟨w, e, w', hcalls, herase, of_decide_eq_true herror, record, hrecord, hlive, hsynced,
      ⟨vector, hvector, of_decide_eq_true hkey⟩, ?_⟩
    exact fun vector hvector => of_decide_eq_true (List.all_eq_true.mp hafter vector hvector)

end HotAirBalloon.Memory
