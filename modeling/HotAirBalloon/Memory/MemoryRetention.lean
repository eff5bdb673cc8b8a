import HotAirBalloon.Memory.CandidateKey
import HotAirBalloon.Memory.FailingCalls
import HotAirBalloon.Memory.Isolation

/-!
# Long-term retention

`purge_once` marks the expired records of one batch as deleted, then deletes the vectors of a batch
of marked records, then their rows. When the deletion of some vectors raises, the run ends before it
has deleted a row, and the next run finds the same records. `retention_vectorFirst` says so of any
sequence of runs and any pattern of failures.
-/

namespace HotAirBalloon.Memory

open Python Library

def Op.isDeleteIds : Op → Bool
  | deleteIds .. => true
  | _ => false

/-- `expires_at` is before `now`. -/
def AssistantMemoryRecord.expired (now : DateTime) (row : AssistantMemoryRecord) : Bool :=
  row.expiresAt.any (· < now)

/-- The record, marked as deleted. -/
def AssistantMemoryRecord.marked (now : DateTime) (row : AssistantMemoryRecord) :
    AssistantMemoryRecord :=
  { row with deletedAt := some now }

/-- A `delete_ids` for the record's namespace that contains its vector id has returned. -/
def VectorDeleted (row : AssistantMemoryRecord) (events : List Event) : Prop :=
  ∃ event ∈ events, event.raises = false ∧
    ∃ vectorIds, event.op = .deleteIds row.vectorNamespace vectorIds ∧ row.vectorId ∈ vectorIds

/-! ## The records that are marked -/

section

variable {t : Tables} {now : DateTime}

theorem mem_expiredMemories {row : AssistantMemoryRecord} :
    row ∈ expiredMemories now t ↔
      row ∈ t.memories ∧ row.deletedAt = none ∧ row.expired now = true := by
  unfold expiredMemories oldestFirst
  rw [List.mem_mergeSort, List.mem_filter, Bool.and_eq_true]
  unfold isLive
  rw [Option.isNone_iff_eq_none]
  exact Iff.rfl

theorem mem_deletedMemories {row : AssistantMemoryRecord} :
    row ∈ deletedMemories t ↔ row ∈ t.memories ∧ row.deletedAt ≠ none := by
  unfold deletedMemories
  rw [List.mem_mergeSort, List.mem_filter]
  unfold isLive
  rw [Bool.not_eq_true', Option.isNone_eq_false_iff, Option.isSome_iff_ne_none]
  exact Iff.rfl

theorem expiredBatch_ids_nodup (batchSize : Nat) :
    (((expiredMemories now t).take batchSize).map (·.id)).Nodup := by
  have hfiltered := t.memories.keys_nodup.sublist ((t.memories.rows.filter_sublist
    (p := fun row => isLive row && row.expiresAt.any (· < now))).map AssistantMemoryRecord.id)
  have hperm := (List.mergeSort_perm (t.memories.rows.filter fun row =>
    isLive row && row.expiresAt.any (· < now)) (fun a b => decide (a.createdAt ≤ b.createdAt))).map
      AssistantMemoryRecord.id
  exact (hperm.nodup_iff.mpr hfiltered).sublist
    ((List.take_sublist batchSize (expiredMemories now t)).map AssistantMemoryRecord.id)

/-- Marking a record that is there. -/
theorem mem_markDeletedRow {row record : AssistantMemoryRecord} (hrow : row ∈ t.memories) :
    record ∈ (markDeletedRow now t row).memories ↔
      record = row.marked now ∨ (record ∈ t.memories ∧ record.id ≠ row.id) := by
  have hfound : t.memories.find? row.id = some row := Table.find?_eq_some_iff.mpr ⟨hrow, rfl⟩
  unfold markDeletedRow
  rw [hfound]
  exact Table.mem_put

theorem mem_foldl_markDeletedRow {rows : List AssistantMemoryRecord}
    (hrows : ∀ row ∈ rows, row ∈ t.memories) (hnodup : (rows.map (·.id)).Nodup)
    {record : AssistantMemoryRecord} :
    record ∈ (rows.foldl (markDeletedRow now) t).memories ↔
      (∃ row ∈ rows, record = row.marked now) ∨
        (record ∈ t.memories ∧ ∀ row ∈ rows, row.id ≠ record.id) := by
  induction rows generalizing t with
  | nil => simp
  | cons row rest ih =>
    obtain ⟨hfresh, hrest⟩ := List.nodup_cons.mp hnodup
    have hrow := hrows row List.mem_cons_self
    have hother : ∀ later ∈ rest, later.id ≠ row.id := by
      intro later hlater heq
      exact hfresh (List.mem_map.mpr ⟨later, hlater, heq⟩)
    have hleft : ∀ later ∈ rest, later ∈ (markDeletedRow now t row).memories := by
      intro later hlater
      refine (mem_markDeletedRow hrow).mpr (Or.inr ⟨?_, hother later hlater⟩)
      exact hrows later (List.mem_cons_of_mem row hlater)
    rw [List.foldl_cons, ih hleft hrest, mem_markDeletedRow hrow]
    simp only [List.mem_cons, exists_eq_or_imp, forall_eq_or_imp]
    constructor
    · rintro (hmarked | ⟨hfirst | ⟨hmem, hne⟩, hnone⟩)
      · exact Or.inl (Or.inr hmarked)
      · exact Or.inl (Or.inl hfirst)
      · exact Or.inr ⟨hmem, Ne.symm hne, hnone⟩
    · rintro ((rfl | hmarked) | ⟨hmem, hne, hnone⟩)
      · exact Or.inr ⟨Or.inl rfl, hother⟩
      · exact Or.inl hmarked
      · exact Or.inr ⟨Or.inr ⟨hmem, Ne.symm hne⟩, hnone⟩

theorem mem_softDeletedTables (batchSize : Nat) {record : AssistantMemoryRecord} :
    record ∈ (softDeletedTables batchSize now t).memories ↔
      (∃ row ∈ (expiredMemories now t).take batchSize, record = row.marked now) ∨
        (record ∈ t.memories ∧ ∀ row ∈ (expiredMemories now t).take batchSize,
          row.id ≠ record.id) :=
  mem_foldl_markDeletedRow
    (fun _ hrow => mem_of_mem_expiredMemories (List.mem_of_mem_take hrow))
    (expiredBatch_ids_nodup batchSize)

end

/-! ## One run -/

section

variable {ι : Type} [DecidableEq ι] {i : ι} {t v : Tables} {x : VectorIndex} {w : World ι}
  {pattern : FailurePattern} {start : List (ι × Event)} {records : List AssistantMemoryRecord}

/-- The deletions of vectors may fail; every other call arrives. -/
abbrev FinishesDeleting {α : Type} (i : ι) (pattern : FailurePattern) (p : Action α) (w : World ι)
    (Q : Except PyError α → World ι → Prop) : Prop :=
  Finishes (failingOn Op.isDeleteIds) i pattern p w Q

/-- Since a point of the log no deletion of vectors has raised, and those of the records are
done. -/
def DeletedSince (i : ι) (start log : List (ι × Event)) (records : List AssistantMemoryRecord) :
    Prop :=
  ∃ events : List Event, log = start ++ events.map (fun event => (i, event)) ∧
    (∀ event ∈ events, event.op.isDeleteIds = true → event.raises = false) ∧
    ∀ record ∈ records, VectorDeleted record events

omit [DecidableEq ι] in
theorem VectorDeleted.append {record : AssistantMemoryRecord} {events : List Event}
    (h : VectorDeleted record events) (later : List Event) :
    VectorDeleted record (events ++ later) := by
  obtain ⟨event, hevent, hfacts⟩ := h
  exact ⟨event, List.mem_append_left later hevent, hfacts⟩

omit [DecidableEq ι] in
theorem DeletedSince.refl (i : ι) (start : List (ι × Event)) : DeletedSince i start start [] := by
  refine ⟨[], (List.append_nil start).symm, ?_, ?_⟩
  · exact fun event hevent => absurd hevent List.not_mem_nil
  · exact fun record hrecord => absurd hrecord List.not_mem_nil

/-- A part of the run that deletes no vectors. -/
theorem DeletedSince.step {α : Type} {p : Action α} {Q : Except PyError α → World ι → Prop}
    (hlog : DeletedSince i start w.log records) (h : FinishesAlone i p w Q)
    (hp : p.Calls (fun op => op.isDeleteIds = false)) :
    FinishesDeleting i pattern p w (fun r w' => Q r w' ∧ DeletedSince i start w'.log records) := by
  obtain ⟨past, hpast, hanswered, hdeleted⟩ := hlog
  refine (logged (failingOn_of_alone h hp) hp).post ?_
  rintro r w' ⟨hQ, events, hevents, hothers⟩
  refine ⟨hQ, past ++ events, ?_, ?_, ?_⟩
  · rw [hevents, hpast, List.map_append, List.append_assoc]
  · intro event hevent hdelete
    rcases List.mem_append.mp hevent with hold | hnew
    · exact hanswered event hold hdelete
    · rw [hothers event hnew] at hdelete
      cases hdelete
  · exact fun record hrecord => (hdeleted record hrecord).append events

/-- The loop over the namespaces: it ends at the first call that raises. -/
theorem deleteGroups_finishes (groups : List (String × List AssistantMemoryRecord)) (deleted : Nat)
    (h : Alone i t v x w) (hlog : DeletedSince i start w.log records) :
    FinishesDeleting i pattern
      (Prog.foldEach groups deleted fun deleted (vectorNamespace, group) => do
        send (.deleteIds vectorNamespace (group.map (·.vectorId)))
        return deleted + group.length) w (fun r w' =>
      (∃ x, Alone i t v x w') ∧
        (((∃ n, r = .ok n) ∧ ∃ done, DeletedSince i start w'.log done ∧
            (∀ record ∈ records, record ∈ done) ∧
            ∀ group ∈ groups, ∀ record ∈ group.2, record.vectorNamespace = group.1 →
              record ∈ done) ∨
          ((∃ e, r = .error e) ∧
            ∃ events : List Event, w'.log = start ++ events.map (fun event => (i, event))))) := by
  induction groups generalizing deleted x w records with
  | nil =>
    refine Finishes.pure ⟨⟨x, h⟩, Or.inl ⟨⟨_, rfl⟩, records, hlog, fun _ h => h, ?_⟩⟩
    exact fun group hgroup => absurd hgroup List.not_mem_nil
  | cons group rest ih =>
    obtain ⟨vectorNamespace, group⟩ := group
    obtain ⟨past, hpast, hanswered, hdone⟩ := hlog
    have hcarry : carryOut i (.deleteIds vectorNamespace (group.map (·.vectorId))) w =
        some (.ok (), { w with
          index := w.index.deleteIds vectorNamespace (group.map (·.vectorId)) }) := rfl
    have hcall : FinishesDeleting i pattern
        (send (.deleteIds vectorNamespace (group.map (·.vectorId)))) w _ :=
      h.failingOnCall _ rfl rfl hcarry
    -- one round: the call, and what the log then says
    have hround : FinishesDeleting i pattern (do
        send (.deleteIds vectorNamespace (group.map (·.vectorId)))
        return deleted + group.length) w (fun r w' => (∃ x, Alone i t v x w') ∧
          ((r = .ok (deleted + group.length) ∧ DeletedSince i start w'.log
              (records ++ group.filter (fun record => record.vectorNamespace = vectorNamespace))) ∨
            ((∃ e, r = .error e) ∧
              ∃ events : List Event, w'.log = start ++ events.map (fun event => (i, event))))) := by
      refine hcall.bind ?_ ?_
      · rintro reply w₁ ⟨-, hentry, halone⟩
        refine Finishes.pure ⟨halone, Or.inl ⟨rfl, past ++
          [⟨.deleteIds vectorNamespace (group.map (·.vectorId)), .ok ()⟩], ?_, ?_, ?_⟩⟩
        · rw [hentry, hpast, List.map_append, List.append_assoc]
          rfl
        · intro event hevent hdelete
          rcases List.mem_append.mp hevent with hold | hnew
          · exact hanswered event hold hdelete
          · rw [List.mem_singleton.mp hnew]
            rfl
        · intro record hrecord
          rcases List.mem_append.mp hrecord with hold | hnew
          · exact (hdone record hold).append _
          · obtain ⟨hmem, hnamespace⟩ := List.mem_filter.mp hnew
            refine ⟨_, List.mem_append_right past List.mem_cons_self, rfl,
              group.map (·.vectorId), ?_, List.mem_map_of_mem hmem⟩
            rw [of_decide_eq_true hnamespace]
      · rintro e w₁ ⟨-, hentry, halone⟩
        refine ⟨halone, Or.inr ⟨⟨e, rfl⟩, past ++
          [⟨.deleteIds vectorNamespace (group.map (·.vectorId)), .error e⟩], ?_⟩⟩
        rw [hentry, hpast, List.map_append, List.append_assoc]
        rfl
    refine hround.bind ?_ ?_
    · rintro n w₁ ⟨⟨x₁, h₁⟩, ⟨heq, hlog₁⟩ | ⟨⟨e, heq⟩, -⟩⟩
      · cases heq
        refine (ih _ h₁ hlog₁).post ?_
        rintro r w' ⟨halone, ⟨hok, done, hlog', hold, hnew⟩ | hraised⟩
        · refine ⟨halone, Or.inl ⟨hok, done, hlog', ?_, ?_⟩⟩
          · exact fun record hrecord => hold record (List.mem_append_left _ hrecord)
          · intro group' hgroup record hrecord hnamespace
            rcases List.mem_cons.mp hgroup with rfl | hlater
            · apply hold record (List.mem_append_right _ _)
              exact List.mem_filter.mpr ⟨hrecord, decide_eq_true hnamespace⟩
            · exact hnew group' hlater record hrecord hnamespace
        · exact ⟨halone, Or.inr hraised⟩
      · cases heq
    · rintro e w₁ ⟨halone, ⟨heq, -⟩ | ⟨-, hevents⟩⟩
      · cases heq
      · exact ⟨halone, Or.inr ⟨⟨e, rfl⟩, hevents⟩⟩

omit [DecidableEq ι] in
theorem DeletedSince.mono {log : List (ι × Event)} {done : List AssistantMemoryRecord}
    (h : DeletedSince i start log done) (hdone : ∀ record ∈ records, record ∈ done) :
    DeletedSince i start log records := by
  obtain ⟨events, hlog, hanswered, hdeleted⟩ := h
  exact ⟨events, hlog, hanswered, fun record hrecord => hdeleted record (hdone record hrecord)⟩

omit [DecidableEq ι] in
theorem DeletedSince.events {log : List (ι × Event)} (h : DeletedSince i start log records) :
    ∃ events : List Event, log = start ++ events.map (fun event => (i, event)) := by
  obtain ⟨events, hlog, -⟩ := h
  exact ⟨events, hlog⟩

/-- The vectors of some records: all deletions return, or one raises. -/
theorem deleteVectors_finishes (records : List AssistantMemoryRecord) (h : Alone i t v x w)
    (hlog : DeletedSince i start w.log []) :
    FinishesDeleting i pattern (deleteVectors records) w (fun r w' =>
      (∃ x, Alone i t v x w') ∧
        (((∃ n, r = .ok n) ∧ DeletedSince i start w'.log records) ∨
          ((∃ e, r = .error e) ∧
            ∃ events : List Event, w'.log = start ++ events.map (fun event => (i, event))))) := by
  refine (deleteGroups_finishes (groupByNamespace records) 0 h hlog).post ?_
  rintro r w' ⟨halone, ⟨hok, done, hlog', -, hdone⟩ | hraised⟩
  · refine ⟨halone, Or.inl ⟨hok, hlog'.mono fun record hrecord => ?_⟩⟩
    exact hdone _ (mem_groupByNamespace hrecord) record
      (List.mem_filter.mpr ⟨hrecord, decide_eq_true rfl⟩) rfl
  · exact ⟨halone, Or.inr hraised⟩

theorem withoutMemories_nil (t : Tables) : t.withoutMemories [] = t := by
  unfold Tables.withoutMemories
  congr 1
  exact Table.filter_eq_self fun _ _ => by simp

/-- The second phase: the rows of the batch go when all its vectors are gone and nothing refers to
them; otherwise nothing changes. -/
theorem deleteSoftDeletedBatch_finishes (job : MemoryRetentionJob) (h : Alone i t t x w)
    (hlog : DeletedSince i start w.log []) :
    FinishesDeleting i pattern job.deleteSoftDeletedBatch w (fun r w' =>
      ((∃ counts, r = .ok counts) ∧
        (∃ x, Alone i (t.withoutMemories (((deletedMemories t).take job.batchSize).map (·.id)))
          (t.withoutMemories (((deletedMemories t).take job.batchSize).map (·.id))) x w') ∧
        DeletedSince i start w'.log ((deletedMemories t).take job.batchSize)) ∨
      ((∃ e, r = .error e) ∧ (∃ x, Alone i t t x w') ∧
        ∃ events : List Event, w'.log = start ++ events.map (fun event => (i, event)))) := by
  have hselect : (inSession (sql (.selectDeletedMemoriesForUpdate job.batchSize))).Calls
      (fun op => op.isDeleteIds = false) := calls_inSession rfl (calls_sql rfl)
  refine (hlog.step (selectBatch_alone job.batchSize h) hselect).bind ?_
    (fun e w' hQ => by cases hQ.1.1)
  rintro rows w₁ ⟨⟨heq, h₁⟩, hlog₁⟩
  cases heq
  split
  · rename_i hempty
    have hnone := List.isEmpty_iff.mp hempty
    refine Finishes.pure (Or.inl ⟨⟨_, rfl⟩, ?_, ?_⟩)
    · rw [hnone, List.map_nil, withoutMemories_nil]
      exact ⟨x, h₁⟩
    · rw [hnone]
      exact hlog₁
  refine (deleteVectors_finishes _ h₁ hlog₁).bind ?_ ?_
  · rintro n w₂ ⟨⟨x₂, h₂⟩, ⟨-, hlog₂⟩ | ⟨⟨e, heq⟩, -⟩⟩
    · have hrecords : ∀ record ∈ (deletedMemories t).take job.batchSize, record ∈ t.memories :=
        fun record hrecord => mem_of_mem_deletedMemories (List.mem_of_mem_take hrecord)
      have hcalls : (inSession do
          let _ ← sql (.deleteMemories ((groupByNamespace
            ((deletedMemories t).take job.batchSize)).flatMap (fun group => group.2.map (·.id))))
          send .commit).Calls (fun op => op.isDeleteIds = false) :=
        calls_inSession rfl (Prog.Calls.bind (calls_sql rfl) fun _ => calls_send rfl)
      refine (hlog₂.step (deleteRows_alone hrecords h₂) hcalls).bind ?_ ?_
      · rintro _ w₃ ⟨hQ, hlog₃⟩
        cases hreferenced : referenced ((deletedMemories t).take job.batchSize) t with
        | true =>
          rw [if_pos hreferenced] at hQ
          cases hQ.1
        | false =>
          rw [if_neg (by simp [hreferenced])] at hQ
          exact Finishes.pure (Or.inl ⟨⟨_, rfl⟩, ⟨x₂, hQ.2⟩, hlog₃⟩)
      · rintro e w₃ ⟨hQ, hlog₃⟩
        cases hreferenced : referenced ((deletedMemories t).take job.batchSize) t with
        | true =>
          rw [if_pos hreferenced] at hQ
          exact Or.inr ⟨⟨e, rfl⟩, ⟨x₂, hQ.2⟩, hlog₃.events⟩
        | false =>
          rw [if_neg (by simp [hreferenced])] at hQ
          cases hQ.1
    · cases heq
  · rintro e w₂ ⟨halone, ⟨⟨n, heq⟩, -⟩ | ⟨-, hevents⟩⟩
    · cases heq
    · exact Or.inr ⟨⟨e, rfl⟩, halone, hevents⟩

theorem softDeleteExpired_calls (job : MemoryRetentionJob) (now : DateTime) :
    (job.softDeleteExpired now).Calls (fun op => op.isDeleteIds = false) := by
  refine calls_inSession rfl (Prog.Calls.bind (calls_sql rfl) fun rows => ?_)
  split
  · exact Prog.Calls.pure _
  · refine Prog.Calls.bind ?_ (fun _ => Prog.Calls.bind (calls_send rfl) fun _ => Prog.Calls.pure _)
    exact Prog.Calls.forEach fun row _ => calls_flushUpdate (calls_sql rfl)

theorem deleteExpiredCandidates_calls (job : MemoryRetentionJob) (now : DateTime) :
    (job.deleteExpiredCandidates now).Calls (fun op => op.isDeleteIds = false) := by
  refine calls_inSession rfl (Prog.Calls.bind (calls_sql rfl) fun candidates => ?_)
  refine Prog.Calls.bind ?_ (fun _ => Prog.Calls.bind (calls_send rfl) fun _ => Prog.Calls.pure _)
  exact Prog.Calls.forEach fun candidate _ => Prog.Calls.bind (calls_sql rfl) fun _ =>
    Prog.Calls.pure _

/-- What a run leaves of the records: the marked ones, or those without the batch whose vectors are
gone. -/
def PurgedRecords (i : ι) (job : MemoryRetentionJob) (now : DateTime) (t t' : Tables)
    (start log : List (ι × Event)) : Prop :=
  (t'.memories = (softDeletedTables job.batchSize now t).memories ∧
    ∃ events : List Event, log = start ++ events.map (fun event => (i, event))) ∨
  (t'.memories = ((softDeletedTables job.batchSize now t).withoutMemories
      ((purgedRecords job.batchSize now t).map (·.id))).memories ∧
    DeletedSince i start log (purgedRecords job.batchSize now t))

theorem purgeOnce_finishes (job : MemoryRetentionJob) (now : DateTime) (h : Alone i t t x w) :
    FinishesDeleting i pattern (job.purgeOnce now) w (fun _ w' =>
      ∃ t' x', Alone i t' t' x' w' ∧ PurgedRecords i job now t t' w.log w'.log) := by
  refine ((DeletedSince.refl i w.log).step (softDeleteExpired_alone job now h)
    (softDeleteExpired_calls job now)).bind ?_ ?_
  · rintro n w₁ ⟨⟨-, h₁⟩, hlog₁⟩
    refine (deleteSoftDeletedBatch_finishes job h₁ hlog₁).bind ?_ ?_
    · rintro counts w₂ (⟨-, ⟨x₂, h₂⟩, hlog₂⟩ | ⟨⟨e, heq⟩, -⟩)
      · refine (hlog₂.step (deleteExpiredCandidates_alone job now h₂)
          (deleteExpiredCandidates_calls job now)).bind ?_ ?_
        · rintro deleted w₃ ⟨⟨t', x', ⟨-, hmemories⟩, h₃⟩, hlog₃⟩
          exact Finishes.pure ⟨t', x', h₃, Or.inr ⟨hmemories, hlog₃⟩⟩
        · rintro e w₃ ⟨⟨t', x', ⟨⟨n, heq⟩, -⟩, -⟩, -⟩
          cases heq
      · cases heq
    · rintro e w₂ (⟨⟨counts, heq⟩, -⟩ | ⟨-, ⟨x₂, h₂⟩, hevents⟩)
      · cases heq
      · exact ⟨_, x₂, h₂, Or.inl ⟨rfl, hevents⟩⟩
  · rintro e w₁ ⟨⟨⟨n, heq⟩, -⟩, -⟩
    cases heq

end

/-! ## Any sequence of runs -/

/-- A run of the job: when it began, its calls, and the tables before and after it. -/
structure RetentionRun where
  now : DateTime
  before : Tables
  events : List Event
  after : Tables

def retentionRun (job : MemoryRetentionJob) (pattern : FailurePattern) (now : DateTime)
    (w : World Unit) : Option (RetentionRun × World Unit) :=
  ((job.purgeOnce now).run (failingOn Op.isDeleteIds) () pattern w).map fun (_, w') =>
    (⟨now, w.server.committed, (w'.log.drop w.log.length).map (·.2), w'.server.committed⟩, w')

def retentionRuns (job : MemoryRetentionJob) (pattern : FailurePattern) :
    List DateTime → World Unit → Option (List RetentionRun)
  | [], _ => some []
  | now :: later, w => (retentionRun job pattern now w).bind fun (run, w') =>
      (retentionRuns job pattern later w').map (run :: ·)

/-- The run has deleted the record. -/
def RetentionRun.HardDeletes (run : RetentionRun) (row : AssistantMemoryRecord) : Prop :=
  row ∈ run.before.memories ∧ ∀ left ∈ run.after.memories, left.id ≠ row.id

/-- What a run may do to the records. -/
structure RetentionRun.VectorFirst (job : MemoryRetentionJob) (run : RetentionRun) : Prop where
  hardDeleted : ∀ row, run.HardDeletes row →
    (row.deletedAt ≠ none ∨ row.expired run.now = true) ∧ VectorDeleted row run.events
  kept : ∀ row ∈ run.before.memories, row.deletedAt = none → row.expired run.now = false →
    row ∈ run.after.memories
  changed : ∀ left ∈ run.after.memories, left ∈ run.before.memories ∨
    ∃ row ∈ run.before.memories, row.deletedAt = none ∧ row.expired run.now = true ∧
      left = row.marked run.now
  raised : (∃ event ∈ run.events, event.op.isDeleteIds = true ∧ event.raises = true) →
    (∀ row ∈ (expiredMemories run.now run.before).take job.batchSize,
      row.marked run.now ∈ deletedMemories run.after) ∧
    ∀ row ∈ purgedRecords job.batchSize run.now run.before, row ∈ deletedMemories run.after

section

variable {job : MemoryRetentionJob} {pattern : FailurePattern} {now : DateTime} {w : World Unit}

theorem mem_withoutMemories {t : Tables} {ids : List Uuid} {row : AssistantMemoryRecord} :
    row ∈ (t.withoutMemories ids).memories ↔ row ∈ t.memories ∧ row.id ∉ ids := by
  show row ∈ t.memories.filter _ ↔ _
  rw [Table.mem_filter]
  simp

/-- The marked table, in terms of one record before the run. -/
theorem softDeleted_or_kept {t : Tables} {row : AssistantMemoryRecord} (batchSize : Nat)
    (hrow : row ∈ t.memories) :
    (row.deletedAt = none ∧ row.expired now = true ∧
        row.marked now ∈ (softDeletedTables batchSize now t).memories) ∨
      row ∈ (softDeletedTables batchSize now t).memories := by
  by_cases hmarked : row ∈ (expiredMemories now t).take batchSize
  · obtain ⟨-, hlive, hexpired⟩ := mem_expiredMemories.mp (List.mem_of_mem_take hmarked)
    exact Or.inl ⟨hlive, hexpired,
      (mem_softDeletedTables batchSize).mpr (Or.inl ⟨row, hmarked, rfl⟩)⟩
  · refine Or.inr ((mem_softDeletedTables batchSize).mpr (Or.inr ⟨hrow, ?_⟩))
    intro other hother heq
    apply hmarked
    have hmem : other ∈ t.memories := mem_of_mem_expiredMemories (List.mem_of_mem_take hother)
    rw [← Table.eq_of_key_eq hmem hrow heq]
    exact hother

theorem changed_softDeletedTables {t : Tables} {left : AssistantMemoryRecord} {batchSize : Nat}
    (h : left ∈ (softDeletedTables batchSize now t).memories) :
    left ∈ t.memories ∨ ∃ row ∈ t.memories, row.deletedAt = none ∧ row.expired now = true ∧
      left = row.marked now := by
  rcases (mem_softDeletedTables batchSize).mp h with ⟨row, hrow, rfl⟩ | ⟨hmem, -⟩
  · obtain ⟨hmem, hlive, hexpired⟩ := mem_expiredMemories.mp (List.mem_of_mem_take hrow)
    exact Or.inr ⟨row, hmem, hlive, hexpired, rfl⟩
  · exact Or.inl hmem

/-- A record of the batch is marked. -/
theorem mem_purgedRecords {t : Tables} {row : AssistantMemoryRecord} {batchSize : Nat}
    (h : row ∈ purgedRecords batchSize now t) :
    row ∈ (softDeletedTables batchSize now t).memories ∧ row.deletedAt ≠ none :=
  mem_deletedMemories.mp (List.mem_of_mem_take h)

/-- A run that ends before it deletes rows. -/
theorem vectorFirst_of_marked {t t' : Tables} (events : List Event)
    (h : t'.memories = (softDeletedTables job.batchSize now t).memories) :
    RetentionRun.VectorFirst job ⟨now, t, events, t'⟩ where
  hardDeleted row hdeleted := by
    obtain ⟨hrow, hgone⟩ := hdeleted
    exfalso
    rcases softDeleted_or_kept job.batchSize hrow with ⟨-, -, hmarked⟩ | hkept
    · exact hgone (row.marked now) (by rw [h]; exact hmarked) rfl
    · exact hgone row (by rw [h]; exact hkept) rfl
  kept row hrow hlive hunexpired := by
    show row ∈ t'.memories
    rw [h]
    rcases softDeleted_or_kept job.batchSize hrow with ⟨-, hexpired, -⟩ | hkept
    · rw [hunexpired] at hexpired
      cases hexpired
    · exact hkept
  changed left hleft := by
    have hmarked : left ∈ (softDeletedTables job.batchSize now t).memories := by
      rw [← h]
      exact hleft
    exact changed_softDeletedTables hmarked
  raised _ := by
    constructor
    · intro row hrow
      have hmarked : row.marked now ∈ (softDeletedTables job.batchSize now t).memories :=
        (mem_softDeletedTables job.batchSize).mpr (Or.inl ⟨row, hrow, rfl⟩)
      exact mem_deletedMemories.mpr ⟨by rw [h]; exact hmarked, nofun⟩
    · intro row hrow
      obtain ⟨hmem, hdeleted⟩ := mem_purgedRecords hrow
      exact mem_deletedMemories.mpr ⟨by rw [h]; exact hmem, hdeleted⟩

/-- A run that deletes the rows of its batch. -/
theorem vectorFirst_of_deleted {t t' : Tables} {events : List Event}
    (h : t'.memories = ((softDeletedTables job.batchSize now t).withoutMemories
      ((purgedRecords job.batchSize now t).map (·.id))).memories)
    (hanswered : ∀ event ∈ events, event.op.isDeleteIds = true → event.raises = false)
    (hvectors : ∀ record ∈ purgedRecords job.batchSize now t, VectorDeleted record events) :
    RetentionRun.VectorFirst job ⟨now, t, events, t'⟩ where
  hardDeleted row hdeleted := by
    obtain ⟨hrow, hgone⟩ := hdeleted
    -- the record that the second phase has seen: marked in this run, or as it was
    have hbatch : ∀ seen : AssistantMemoryRecord, seen.id = row.id →
        seen ∈ (softDeletedTables job.batchSize now t).memories →
          seen ∈ purgedRecords job.batchSize now t := by
      intro seen hid hseen
      have hgoneId : seen.id ∈ (purgedRecords job.batchSize now t).map (·.id) := by
        by_contra hnot
        refine hgone seen ?_ hid
        show seen ∈ t'.memories
        rw [h]
        exact mem_withoutMemories.mpr ⟨hseen, hnot⟩
      obtain ⟨record, hrecord, heq⟩ := List.mem_map.mp hgoneId
      rw [← Table.eq_of_key_eq (mem_purgedRecords hrecord).1 hseen heq]
      exact hrecord
    rcases softDeleted_or_kept job.batchSize hrow with ⟨-, hexpired, hmarked⟩ | hkept
    · have hdone := hvectors _ (hbatch (row.marked now) rfl hmarked)
      exact ⟨Or.inr hexpired, hdone⟩
    · have hpurged := hbatch row rfl hkept
      exact ⟨Or.inl (mem_purgedRecords hpurged).2, hvectors row hpurged⟩
  kept row hrow hlive hunexpired := by
    show row ∈ t'.memories
    rw [h, mem_withoutMemories]
    rcases softDeleted_or_kept job.batchSize hrow with ⟨-, hexpired, -⟩ | hkept
    · rw [hunexpired] at hexpired
      cases hexpired
    · refine ⟨hkept, ?_⟩
      intro hid
      obtain ⟨record, hrecord, heq⟩ := List.mem_map.mp hid
      obtain ⟨hmem, hdeleted⟩ := mem_purgedRecords hrecord
      rw [Table.eq_of_key_eq hmem hkept heq] at hdeleted
      exact hdeleted hlive
  changed left hleft := by
    have hmarked : left ∈ (softDeletedTables job.batchSize now t).memories := by
      change left ∈ t'.memories at hleft
      rw [h, mem_withoutMemories] at hleft
      exact hleft.1
    exact changed_softDeletedTables hmarked
  raised hraised := by
    obtain ⟨event, hevent, hdelete, hraises⟩ := hraised
    rw [hanswered event hevent hdelete] at hraises
    cases hraises

/-- One run, from any tables. -/
theorem retentionRun_vectorFirst (job : MemoryRetentionJob) (pattern : FailurePattern)
    (now : DateTime) {t : Tables} {x : VectorIndex} (h : Alone () t t x w) :
    ∃ run w', retentionRun job pattern now w = some (run, w') ∧ run.VectorFirst job ∧
      run.now = now ∧ run.before = t ∧ ∃ x', Alone () run.after run.after x' w' := by
  obtain ⟨r, w', hrun, t', x', h', hrecords⟩ :=
    (purgeOnce_finishes job now h : FinishesDeleting () pattern (job.purgeOnce now) w _)
  have hevents : ∀ events : List Event, w'.log = w.log ++ events.map (fun event => ((), event)) →
      (w'.log.drop w.log.length).map (·.2) = events := by
    intro events hlog
    rw [hlog, List.drop_left, List.map_map]
    exact List.map_id events
  refine ⟨_, w', by unfold retentionRun; rw [hrun]; rfl, ?_, rfl, h.committed, x', ?_⟩
  · rw [h.committed, h'.committed]
    rcases hrecords with ⟨hmarked, -⟩ | ⟨hdeleted, events, hlog, hanswered, hvectors⟩
    · exact vectorFirst_of_marked _ hmarked
    · rw [hevents events hlog]
      exact vectorFirst_of_deleted hdeleted hanswered hvectors
  · show Alone () w'.server.committed w'.server.committed x' w'
    rw [h'.committed]
    exact h'

/-- The record, or what a run has made of it. -/
theorem RetentionRun.VectorFirst.origin {run : RetentionRun} (h : run.VectorFirst job)
    {left : AssistantMemoryRecord} (hleft : left ∈ run.after.memories) :
    ∃ row ∈ run.before.memories, row.id = left.id ∧
      (left = row ∨ (row.expired run.now = true ∧ left = row.marked run.now)) := by
  rcases h.changed left hleft with hold | ⟨row, hrow, -, hexpired, rfl⟩
  · exact ⟨left, hold, rfl, Or.inl rfl⟩
  · exact ⟨row, hrow, rfl, Or.inr ⟨hexpired, rfl⟩⟩

end

/-- Where a deleted record comes from: it was marked before the runs, or it was expired when this
run or an earlier one began. -/
def Outlived (t : Tables) (runs : List RetentionRun) (row : AssistantMemoryRecord) : Prop :=
  ∃ original ∈ t.memories, original.id = row.id ∧
    (original.deletedAt ≠ none ∨ ∃ run ∈ runs, original.expired run.now = true)

/-- What a sequence of runs may do to the records. -/
structure VectorFirstRuns (job : MemoryRetentionJob) (t : Tables) (nows : List DateTime)
    (runs : List RetentionRun) : Prop where
  starts : runs.map RetentionRun.now = nows
  each : ∀ run ∈ runs, run.VectorFirst job
  hardDeleted : ∀ earlier run later row, runs = earlier ++ run :: later → run.HardDeletes row →
    Outlived t (earlier ++ [run]) row ∧ VectorDeleted row run.events
  kept : ∀ row ∈ t.memories, row.deletedAt = none → (∀ now ∈ nows, row.expired now = false) →
    ∀ run ∈ runs, row ∈ run.after.memories

section

variable {job : MemoryRetentionJob} {run : RetentionRun} {runs : List RetentionRun}
  {nows : List DateTime}

theorem Outlived.of_after {row : AssistantMemoryRecord} (hrun : run.VectorFirst job)
    (h : Outlived run.after runs row) : Outlived run.before (run :: runs) row := by
  obtain ⟨left, hleft, hid, houtlived⟩ := h
  obtain ⟨original, horiginal, hid', rfl | ⟨hexpired, rfl⟩⟩ := hrun.origin hleft
  · refine ⟨left, horiginal, hid, ?_⟩
    rcases houtlived with hdeleted | ⟨later, hlater, hexpired⟩
    · exact Or.inl hdeleted
    · exact Or.inr ⟨later, List.mem_cons_of_mem run hlater, hexpired⟩
  · exact ⟨original, horiginal, hid, Or.inr ⟨run, List.mem_cons_self, hexpired⟩⟩

theorem VectorFirstRuns.cons (hrun : run.VectorFirst job)
    (h : VectorFirstRuns job run.after nows runs) :
    VectorFirstRuns job run.before (run.now :: nows) (run :: runs) where
  starts := by rw [List.map_cons, h.starts]
  each := by
    intro other hother
    rcases List.mem_cons.mp hother with rfl | hlater
    · exact hrun
    · exact h.each other hlater
  hardDeleted := by
    intro earlier deleting later row heq hdeleted
    cases earlier with
    | nil =>
      obtain ⟨rfl, -⟩ := List.cons.inj heq
      obtain ⟨hmarked, hvector⟩ := hrun.hardDeleted row hdeleted
      refine ⟨⟨row, hdeleted.1, rfl, ?_⟩, hvector⟩
      exact hmarked.imp_right (fun hexpired => ⟨run, List.mem_singleton_self run, hexpired⟩)
    | cons first earlier =>
      obtain ⟨rfl, hrest⟩ := List.cons.inj heq
      obtain ⟨houtlived, hvector⟩ := h.hardDeleted earlier deleting later row hrest hdeleted
      exact ⟨houtlived.of_after hrun, hvector⟩
  kept := by
    intro row hrow hlive hunexpired
    have hfirst := hrun.kept row hrow hlive (hunexpired run.now List.mem_cons_self)
    have hrest := h.kept row hfirst hlive
      (fun now hnow => hunexpired now (List.mem_cons_of_mem run.now hnow))
    exact List.forall_mem_cons.mpr ⟨hfirst, hrest⟩

theorem retentionRuns_vectorFirst (job : MemoryRetentionJob) (pattern : FailurePattern)
    (nows : List DateTime) {t : Tables} {x : VectorIndex} {w : World Unit} (h : Alone () t t x w) :
    ∃ runs, retentionRuns job pattern nows w = some runs ∧ VectorFirstRuns job t nows runs := by
  induction nows generalizing t x w with
  | nil =>
    refine ⟨[], rfl, rfl, fun _ hrun => absurd hrun List.not_mem_nil, ?_, ?_⟩
    · intro earlier run later row heq
      simp at heq
    · exact fun _ _ _ _ _ hrun => absurd hrun List.not_mem_nil
  | cons now later ih =>
    obtain ⟨run, w', hrun, hvectorFirst, rfl, rfl, x', h'⟩ :=
      retentionRun_vectorFirst job pattern now h
    obtain ⟨runs, hruns, hrest⟩ := ih h'
    refine ⟨run :: runs, ?_, hrest.cons hvectorFirst⟩
    unfold retentionRuns
    rw [hrun, Option.bind_some]
    dsimp only
    rw [hruns]
    rfl

end

/-- Retention deletes records only after their vectors, and only those that are marked or expired,
whichever deletions of vectors fail. -/
theorem retention_vectorFirst (job : MemoryRetentionJob) (pattern : FailurePattern)
    (nows : List DateTime) (t : Tables) (x : VectorIndex) :
    ∃ runs, retentionRuns job pattern nows (World.idle t x) = some runs ∧
      VectorFirstRuns job t nows runs :=
  retentionRuns_vectorFirst job pattern nows (Alone.start () [])

end HotAirBalloon.Memory
