import HotAirBalloon.Memory.FailingCalls
import HotAirBalloon.Memory.Isolation

/-!
# The vector sync worker under failures

`sync_once` catches what goes wrong with one record, counts the attempt and goes on with the next
record. The wait between two attempts is computed in the handler, from a counter without a bound:
from the 1024th failure on `0.05 * (2**sync_retry_count)` raises, before `min` caps it, and the
exception discards the batch and ends the task of the worker. `survivesFailures` says that this is
the only way to lose a batch.
-/

namespace HotAirBalloon.Memory

open Python Library

/-! ## Failing calls -/

/-- The calls that go to the embedding client and the vector index. -/
def Op.isEmbedOrUpsert : Op → Bool
  | embed _ | upsert _ => true
  | _ => false

/-- The embedding client and the index fail by a pattern; the database answers. -/
def failing {ι : Type} [DecidableEq ι] :
    Exec ι PyError Op Op.Reply FailurePattern (World ι) := fun i op pattern w =>
  exec i op (if op.isEmbedOrUpsert then pattern w.log.length else .arrives) w

/-- Whatever fails raises an `Exception`. -/
def FailurePattern.RaisesExceptions (pattern : FailurePattern) : Prop :=
  ∀ n e, (pattern n).error? = some e → e.isException = true

/-- What goes wrong with a record whose first call is the `n`-th. -/
def FailurePattern.attemptError (pattern : FailurePattern) (n : Nat) : Option PyError :=
  (pattern n).error?.or (pattern (n + 1)).error?

/-- The place after the calls for a record: no vector is stored without an embedding. -/
def FailurePattern.afterAttempt (pattern : FailurePattern) (n : Nat) : Nat :=
  if (pattern n).error?.isSome then n + 1 else n + 2

/-- The records of a batch, each with what goes wrong with it. -/
def FailurePattern.attempts (pattern : FailurePattern) :
    Nat → List AssistantMemoryRecord → List (AssistantMemoryRecord × Option PyError)
  | _, [] => []
  | n, record :: rest =>
    (record, pattern.attemptError n) :: pattern.attempts (pattern.afterAttempt n) rest

/-- The records that `sync_once` takes up when no other session holds locks. -/
def VectorSyncWorker.batch (worker : VectorSyncWorker) (t : Tables) : List AssistantMemoryRecord :=
  (unsyncedMemories t).take worker.batchSize

/-! ## What a batch shall become -/

/-- A record after an attempt. -/
def attempted (clock : Uuid → DateTime) (attempt : AssistantMemoryRecord × Option PyError) :
    AssistantMemoryRecord :=
  match attempt with
  | (record, none) => { record with syncedAt := some (clock record.id), syncLastError := none }
  | (record, some e) => { record with
      syncRetryCount := record.syncRetryCount + 1
      syncLastError := some (String.ofList (e.message.toList.take 4000)) }

/-- `sync_once` returns, and every record of the batch is committed as its attempt went. -/
def SurvivesFailures (worker : VectorSyncWorker) (clock : Uuid → DateTime)
    (pattern : FailurePattern) (t : Tables) : Prop :=
  Finishes failing () pattern (worker.syncOnce clock) ⟨.idle t, .empty, []⟩ (fun r w =>
    r = .ok (worker.batch t).length ∧
    (∀ attempt ∈ pattern.attempts 1 (worker.batch t),
      attempted clock attempt ∈ w.server.committed.memories) ∧
    ∀ record ∈ t.memories, record ∉ worker.batch t → record ∈ w.server.committed.memories)

/-- No record of the batch fails for the 1024th time. -/
def BackoffInRange (attempts : List (AssistantMemoryRecord × Option PyError)) : Prop :=
  ∀ attempt ∈ attempts, attempt.2.isSome = true → attempt.1.syncRetryCount + 1 < 1024

instance (attempts : List (AssistantMemoryRecord × Option PyError)) :
    Decidable (BackoffInRange attempts) := by
  unfold BackoffInRange
  infer_instance

/-! ## One record -/

namespace VectorSyncWorker

/-- What the loop of `sync_once` keeps of an attempt. -/
def outcome (clock : Uuid → DateTime) (attempt : AssistantMemoryRecord × Option PyError) :
    SyncOutcome :=
  match attempt with
  | (record, none) => .synced record (clock record.id)
  | (record, some e) => .failed record e

/-- The handler of a failed attempt first computes the wait. -/
def outcomeOrOverflow (clock : Uuid → DateTime)
    (attempt : AssistantMemoryRecord × Option PyError) : Except PyError SyncOutcome := do
  if attempt.2.isSome then backoff (attempt.1.syncRetryCount + 1)
  return outcome clock attempt

end VectorSyncWorker

open VectorSyncWorker

section

variable {ι : Type} [DecidableEq ι] {i : ι} {t v : Tables} {x : VectorIndex} {w : World ι}
  {pattern : FailurePattern} {clock : Uuid → DateTime}

/-- A call to the embedding client or the index leaves the tables alone. -/
theorem Alone.failingCall (h : Alone i t v x w) (op : Op) {a : op.Reply} {x' : VectorIndex}
    (hop : op.isEmbedOrUpsert = true)
    (hcarry : carryOut i op w = some (.ok a, { w with index := x' })) :
    Finishes failing i pattern (send op) w (fun r w' =>
      (r = match (pattern w.log.length).error? with
        | none => .ok a
        | some e => .error e) ∧
      w'.log.length = w.log.length + 1 ∧ ∃ x, Alone i t v x w') := by
  have harrives : op.alwaysArrives = false := by
    cases op <;> first | rfl | cases hop
  have hcall : Finishes failing i pattern (send op) w _ := h.failingOnCall op hop harrives hcarry
  refine hcall.post ?_
  rintro r w' ⟨hreply, hlog, halone⟩
  refine ⟨hreply, ?_, halone⟩
  rw [hlog, List.length_append, List.length_singleton]

theorem syncRecord_finishes (h : Alone i t v x w) (hpattern : pattern.RaisesExceptions)
    (record : AssistantMemoryRecord) :
    Finishes failing i pattern (syncRecord record (clock record.id)) w (fun r w' =>
      r = outcomeOrOverflow clock (record, pattern.attemptError w.log.length) ∧
      w'.log.length = pattern.afterAttempt w.log.length ∧ ∃ x, Alone i t v x w') := by
  have hcalls : Finishes failing i pattern
      (do send (.embed record.content); send (.upsert (storedVector record))) w (fun r w' =>
        (r = match pattern.attemptError w.log.length with
          | none => .ok ()
          | some e => .error e) ∧
        w'.log.length = pattern.afterAttempt w.log.length ∧ ∃ x, Alone i t v x w') := by
    unfold FailurePattern.attemptError FailurePattern.afterAttempt
    refine (h.failingCall (.embed record.content) rfl rfl).bind ?_ ?_
    · rintro a w₁ ⟨hreply, hlog, x₁, h₁⟩
      cases hembed : (pattern w.log.length).error? with
      | some e => rw [hembed] at hreply; cases hreply
      | none =>
        refine (h₁.failingCall (.upsert (storedVector record)) rfl rfl).post ?_
        rintro r w₂ ⟨hreply', hlog', h₂⟩
        rw [hlog] at hreply' hlog'
        exact ⟨hreply', hlog', h₂⟩
    · rintro e w₁ ⟨hreply, hlog, h₁⟩
      cases hembed : (pattern w.log.length).error? with
      | none => rw [hembed] at hreply; cases hreply
      | some e' =>
        rw [hembed] at hreply
        exact ⟨hreply, hlog, h₁⟩
  have hexception : ∀ e, pattern.attemptError w.log.length = some e → e.isException = true := by
    intro e he
    rcases Option.or_eq_some_iff.mp he with he | ⟨-, he⟩
    · exact hpattern _ e he
    · exact hpattern _ e he
  have hattempt : Finishes failing i pattern
      (do send (.embed record.content); send (.upsert (storedVector record)) :
        Action Unit).attempt w (fun r w' => ∃ result, r = .ok result ∧
        (result = match pattern.attemptError w.log.length with
          | none => .ok ()
          | some e => .error e) ∧
        w'.log.length = pattern.afterAttempt w.log.length ∧ ∃ x, Alone i t v x w') :=
    hcalls.attempt (fun result w' hQ => ⟨result, rfl, hQ⟩)
  refine hattempt.bind ?_ ?_
  · rintro result w₁ ⟨_, heq, hreply, hrest⟩
    cases heq
    cases hfails : pattern.attemptError w.log.length with
    | none =>
      rw [hfails] at hreply
      subst hreply
      exact Finishes.pure ⟨rfl, hrest⟩
    | some e =>
      rw [hfails] at hreply
      subst hreply
      dsimp only
      rw [if_pos (hexception e hfails)]
      unfold outcomeOrOverflow
      cases backoff (record.syncRetryCount + 1) with
      | ok _ => exact Finishes.pure ⟨rfl, hrest⟩
      | error e' => exact Finishes.raise ⟨rfl, hrest⟩
  · rintro e w₁ ⟨_, heq, -⟩
    cases heq

/-! ## The batch -/

theorem syncRecords_finishes (h : Alone i t v x w) (hpattern : pattern.RaisesExceptions)
    (records : List AssistantMemoryRecord) (outcomes : List SyncOutcome) :
    Finishes failing i pattern (Prog.foldEach records outcomes fun outcomes record => do
        let outcome ← syncRecord record (clock record.id)
        return outcomes ++ [outcome]) w (fun r w' =>
      r = ((pattern.attempts w.log.length records).mapM (outcomeOrOverflow clock)).map
        (outcomes ++ ·) ∧ ∃ x, Alone i t v x w') := by
  induction records generalizing outcomes w x with
  | nil =>
    refine Finishes.pure ⟨?_, x, h⟩
    simp [FailurePattern.attempts, pure, Except.pure, Except.map]
  | cons record rest ih =>
    have hround : Finishes failing i pattern (do
          let outcome ← syncRecord record (clock record.id)
          return outcomes ++ [outcome] : Action (List SyncOutcome)) w (fun r w' =>
        r = (outcomeOrOverflow clock (record, pattern.attemptError w.log.length)).map
          (fun outcome => outcomes ++ [outcome]) ∧
        w'.log.length = pattern.afterAttempt w.log.length ∧ ∃ x, Alone i t v x w') := by
      refine (syncRecord_finishes h hpattern record).bind ?_ ?_
      · rintro outcome w₁ ⟨heq, hrest⟩
        rw [← heq]
        exact Finishes.pure ⟨rfl, hrest⟩
      · rintro e w₁ ⟨heq, hrest⟩
        rw [← heq]
        exact ⟨rfl, hrest⟩
    unfold Prog.foldEach FailurePattern.attempts
    rw [List.mapM_cons]
    refine hround.bind ?_ ?_
    · rintro outcomes' w₁ ⟨heq, hlog, x₁, h₁⟩
      cases hfirst : outcomeOrOverflow clock (record, pattern.attemptError w.log.length) with
      | error e => rw [hfirst] at heq; cases heq
      | ok outcome =>
        rw [hfirst] at heq
        cases heq
        refine (ih h₁ (outcomes ++ [outcome])).post ?_
        rintro r w₂ ⟨heq, h₂⟩
        rw [hlog] at heq
        refine ⟨heq.trans ?_, h₂⟩
        change Except.map _ (List.mapM _ _) = Except.map _ (List.mapM _ _ >>= _)
        cases List.mapM (outcomeOrOverflow clock)
          (pattern.attempts (pattern.afterAttempt w.log.length) rest) with
        | error e => rfl
        | ok later => simp [Except.map, bind, Except.bind, pure, Except.pure]
    · rintro e w₁ ⟨heq, -, h₁⟩
      cases hfirst : outcomeOrOverflow clock (record, pattern.attemptError w.log.length) with
      | ok outcome => rw [hfirst] at heq; cases heq
      | error e' =>
        rw [hfirst] at heq
        cases heq
        exact ⟨rfl, h₁⟩

/-- While the counters stay in range, every attempt has its outcome. -/
theorem mapM_outcome {attempts : List (AssistantMemoryRecord × Option PyError)}
    (h : BackoffInRange attempts) :
    attempts.mapM (outcomeOrOverflow clock) = .ok (attempts.map (outcome clock)) := by
  induction attempts with
  | nil => rfl
  | cons attempt rest ih =>
    have hfirst : outcomeOrOverflow clock attempt = .ok (outcome clock attempt) := by
      unfold outcomeOrOverflow backoff
      by_cases hfails : attempt.2.isSome = true
      · have hrange : attempt.1.syncRetryCount + 1 < 1024 := h attempt List.mem_cons_self hfails
        rw [if_pos hfails, if_neg (by omega)]
        rfl
      · rw [if_neg hfails]
        rfl
    rw [List.mapM_cons, hfirst,
      ih (fun attempt' h' => h attempt' (List.mem_cons_of_mem attempt h'))]
    rfl

/-- One counter out of range ends the loop. -/
theorem mapM_overflow (clock : Uuid → DateTime)
    {attempts : List (AssistantMemoryRecord × Option PyError)}
    (h : ¬BackoffInRange attempts) : ∃ e, attempts.mapM (outcomeOrOverflow clock) = .error e := by
  induction attempts with
  | nil =>
    exfalso
    apply h
    intro attempt hattempt
    cases hattempt
  | cons attempt rest ih =>
    rw [List.mapM_cons]
    cases hfirst : outcomeOrOverflow clock attempt with
    | error e => exact ⟨e, rfl⟩
    | ok _ =>
      have hrest : ¬BackoffInRange rest := by
        intro hrange
        apply h
        intro attempt' hattempt' hfails
        rcases List.mem_cons.mp hattempt' with rfl | hlater
        · by_contra hcount
          unfold outcomeOrOverflow backoff at hfirst
          rw [if_pos hfails, if_pos (by omega)] at hfirst
          cases hfirst
        · exact hrange attempt' hlater hfails
      obtain ⟨e, he⟩ := ih hrest
      exact ⟨e, by rw [he]; rfl⟩

theorem attempts_fst (pattern : FailurePattern) (n : Nat) (records : List AssistantMemoryRecord) :
    (pattern.attempts n records).map Prod.fst = records := by
  induction records generalizing n with
  | nil => rfl
  | cons record rest ih =>
    unfold FailurePattern.attempts
    rw [List.map_cons, ih]

/-! ## The flush -/

theorem attempted_id (clock : Uuid → DateTime) (attempt : AssistantMemoryRecord × Option PyError) :
    (attempted clock attempt).id = attempt.1.id := by
  obtain ⟨record, error⟩ := attempt
  cases error <;> rfl

theorem flushOutcome_runs (i : ι) (t : Tables) (clock : Uuid → DateTime)
    {attempt : AssistantMemoryRecord × Option PyError} (hrow : attempt.1 ∈ v.memories) :
    RunsAlone i t v (flushOutcome (outcome clock attempt)) (.ok ()) t
      (v.after [.memory (.put (attempted clock attempt))]) := by
  obtain ⟨record, error⟩ := attempt
  have hfind : v.memories.find? record.id = some record :=
    Table.find?_eq_some_iff.mpr ⟨hrow, rfl⟩
  have houtcome : ∀ set : AssistantMemoryRecord → AssistantMemoryRecord,
      (updateMemory record.id set v).outcome = .ok (1, [.memory (.put (set record))]) := by
    intro set
    unfold updateMemory
    rw [hfind]
    rfl
  cases error with
  | none =>
    have hsql : RunsAlone i t v (sql (.markSynced record.id (clock record.id))) _ t _ :=
      RunsAlone.sql (houtcome _)
    exact hsql.bind (RunsAlone.pure ())
  | some e =>
    have hsql : RunsAlone i t v (sql (.recordSyncError record.id (record.syncRetryCount + 1)
        (String.ofList (e.message.toList.take 4000)))) _ t _ := RunsAlone.sql (houtcome _)
    exact hsql.bind (RunsAlone.pure ())

theorem flushOutcomes_run (i : ι) (t : Tables) (clock : Uuid → DateTime)
    (attempts : List (AssistantMemoryRecord × Option PyError))
    (hnodup : (attempts.map (fun attempt => attempt.1.id)).Nodup)
    (hrows : ∀ attempt ∈ attempts, attempt.1 ∈ v.memories) :
    ∃ v', RunsAlone i t v (Prog.forEach (attempts.map (outcome clock)) flushOutcome) (.ok ()) t v' ∧
      (∀ attempt ∈ attempts, attempted clock attempt ∈ v'.memories) ∧
      ∀ row ∈ v.memories, (∀ attempt ∈ attempts, row.id ≠ attempt.1.id) → row ∈ v'.memories := by
  induction attempts generalizing v with
  | nil =>
    refine ⟨v, RunsAlone.pure (), ?_, fun row hrow _ => hrow⟩
    intro attempt hattempt
    cases hattempt
  | cons attempt rest ih =>
    rw [List.map_cons, List.nodup_cons] at hnodup
    have hother : ∀ attempt' ∈ rest, attempt'.1.id ≠ attempt.1.id := by
      intro attempt' hattempt' heq
      apply hnodup.1
      rw [← heq]
      exact List.mem_map_of_mem hattempt'
    have hfirst := flushOutcome_runs i t clock (hrows attempt List.mem_cons_self)
    have hmem : ∀ {row : AssistantMemoryRecord},
        row ∈ (v.after [.memory (.put (attempted clock attempt))]).memories ↔
          row = attempted clock attempt ∨ (row ∈ v.memories ∧ row.id ≠ attempt.1.id) := by
      intro row
      rw [← attempted_id clock attempt]
      exact Table.mem_put
    obtain ⟨v', hrest, hdone, hkept⟩ := ih hnodup.2 (fun attempt' hattempt' => hmem.mpr (.inr
      ⟨hrows attempt' (List.mem_cons_of_mem attempt hattempt'), hother attempt' hattempt'⟩))
    refine ⟨v', hfirst.bind hrest, ?_, ?_⟩
    · intro attempt' hattempt'
      rcases List.mem_cons.mp hattempt' with rfl | hlater
      · refine hkept _ (hmem.mpr (.inl rfl)) ?_
        intro attempt'' hattempt''
        rw [attempted_id]
        exact (hother attempt'' hattempt'').symm
      · exact hdone attempt' hlater
    · intro row hrow hne
      refine hkept row (hmem.mpr (.inr ⟨hrow, hne attempt List.mem_cons_self⟩)) ?_
      exact fun attempt' hattempt' => hne attempt' (List.mem_cons_of_mem attempt hattempt')

end

/-! ## A run of the worker -/

section

variable {ι : Type} [DecidableEq ι] {i : ι} {t v : Tables} {x : VectorIndex} {w : World ι}
  {pattern : FailurePattern} {clock : Uuid → DateTime} {worker : VectorSyncWorker}

/-- What a program does without the embedding client and the index does not depend on them. -/
theorem failing_of_alone {α : Type} {p : Action α} {Q : Except PyError α → World ι → Prop}
    (h : FinishesAlone i p w Q) (hp : p.Calls (fun op => op.isEmbedOrUpsert = false)) :
    Finishes failing i pattern p w Q :=
  failingOn_of_alone h hp

theorem failing_rollback (w : World ι) :
    failing i .rollback pattern w = exec i .rollback .arrives w :=
  rfl

theorem finishes_logged {op : Op} {Q : Except PyError op.Reply → World ι → Prop}
    (h : FinishesAlone i (send op) w Q) :
    FinishesAlone i (send op) w (fun r w' => Q r w' ∧ w'.log.length = w.log.length + 1) := by
  obtain ⟨r, w', hrun, hQ⟩ := h
  obtain ⟨⟨reply, w₁⟩, hexec, hdone⟩ := Option.bind_eq_some_iff.mp hrun
  cases hdone
  refine ⟨_, _, hrun, hQ, ?_⟩
  rw [exec_log hexec, List.length_append]
  rfl

theorem mem_of_mem_batch {record : AssistantMemoryRecord} (h : record ∈ worker.batch t) :
    record ∈ t.memories := by
  have hsorted : record ∈ unsyncedMemories t := List.mem_of_mem_take h
  exact List.mem_of_mem_filter (List.mem_mergeSort.mp hsorted)

theorem batch_ids_nodup (worker : VectorSyncWorker) (t : Tables) :
    ((worker.batch t).map (·.id)).Nodup := by
  have hfiltered := t.memories.keys_nodup.sublist ((t.memories.rows.filter_sublist
    (p := fun row => row.syncedAt.isNone && isLive row)).map AssistantMemoryRecord.id)
  have hperm := (List.mergeSort_perm (t.memories.rows.filter fun row =>
    row.syncedAt.isNone && isLive row) (fun a b => decide (a.createdAt ≤ b.createdAt))).map
      AssistantMemoryRecord.id
  exact (hperm.nodup_iff.mpr hfiltered).sublist
    ((List.take_sublist worker.batchSize (unsyncedMemories t)).map AssistantMemoryRecord.id)

/-- The session first locks and reads its batch. -/
theorem selectBatch_finishes (h : Alone i t t x w) :
    Finishes failing i pattern (sql (.selectUnsyncedForUpdate worker.batchSize)) w (fun r w' =>
      (r = .ok (worker.batch t) ∧ Alone i t t x w') ∧ w'.log.length = w.log.length + 1) := by
  have houtcome : ((Sql.selectUnsyncedForUpdate worker.batchSize).alone t).outcome =
      .ok (worker.batch t, []) := by
    change Except.ok (((unsyncedMemories t).filter (fun _ => !false)).take worker.batchSize, _) = _
    rw [Bool.not_false, List.filter_true]
    rfl
  exact failing_of_alone (finishes_logged (h.sql houtcome)) (calls_sql rfl)

/-- `sync_once` while every counter stays in range. -/
theorem syncOnce_inRange (h : Alone i t t x w) (hpattern : pattern.RaisesExceptions)
    (hrange : BackoffInRange (pattern.attempts (w.log.length + 1) (worker.batch t))) :
    Finishes failing i pattern (worker.syncOnce clock) w (fun r w' =>
      r = .ok (worker.batch t).length ∧
      (∀ attempt ∈ pattern.attempts (w.log.length + 1) (worker.batch t),
        attempted clock attempt ∈ w'.server.committed.memories) ∧
      ∀ record ∈ t.memories, record ∉ worker.batch t → record ∈ w'.server.committed.memories) := by
  have hfst := attempts_fst pattern (w.log.length + 1) (worker.batch t)
  have hmem : ∀ attempt ∈ pattern.attempts (w.log.length + 1) (worker.batch t),
      attempt.1 ∈ worker.batch t := by
    intro attempt hattempt
    rw [← hfst]
    exact List.mem_map_of_mem hattempt
  have hnodup := batch_ids_nodup worker t
  rw [← hfst, List.map_map] at hnodup
  obtain ⟨t', hflush, hdone, hkept⟩ := flushOutcomes_run i t clock _
    hnodup (fun attempt hattempt => mem_of_mem_batch (hmem attempt hattempt))
  have hsession : Finishes failing i pattern (worker.syncOnce clock) w (fun r w' =>
      ∃ t₁ x₁, (r = .ok (worker.batch t).length ∧ t₁ = t') ∧ Alone i t₁ t₁ x₁ w') := by
    refine Alone.inSession_of failing_rollback
      (fun r t₁ _ => r = .ok (worker.batch t).length ∧ t₁ = t') ?_
    refine selectBatch_finishes h |>.bind ?_ (fun e w₁ hQ => by cases hQ.1.1)
    rintro records w₁ ⟨⟨heq, h₁⟩, hlog⟩
    cases heq
    refine (syncRecords_finishes h₁ hpattern (worker.batch t) []).bind ?_ ?_
    · rintro outcomes w₂ ⟨heq, x₂, h₂⟩
      rw [hlog, mapM_outcome hrange] at heq
      cases heq
      have hcalls : (Prog.forEach ((pattern.attempts (w.log.length + 1) (worker.batch t)).map
          (outcome clock)) flushOutcome).Calls (fun op => op.isEmbedOrUpsert = false) := by
        refine Prog.Calls.forEach ?_
        intro outcome _
        cases outcome <;> exact calls_flushUpdate (calls_sql rfl)
      refine (failing_of_alone (hflush x₂ w₂ h₂) hcalls).bind ?_ (fun e w₃ hQ => by cases hQ.1)
      rintro _ w₃ ⟨-, h₃⟩
      refine (failing_of_alone h₃.commit (calls_send rfl)).bind ?_ (fun e w₄ hQ => by cases hQ.1)
      rintro _ w₄ ⟨-, h₄⟩
      exact Finishes.pure ⟨t', t', x₂, ⟨rfl, rfl⟩, h₄⟩
    · rintro e w₂ ⟨heq, -⟩
      rw [hlog, mapM_outcome hrange] at heq
      cases heq
  refine hsession.post ?_
  rintro r w' ⟨t₁, x₁, ⟨hr, rfl⟩, h'⟩
  rw [h'.committed]
  refine ⟨hr, hdone, ?_⟩
  intro record hrecord hnot
  refine hkept record hrecord ?_
  intro attempt hattempt heq
  apply hnot
  rw [Table.eq_of_key_eq hrecord (mem_of_mem_batch (hmem attempt hattempt)) heq]
  exact hmem attempt hattempt

/-- `sync_once` when a counter leaves the range. -/
theorem syncOnce_overflow (clock : Uuid → DateTime) (h : Alone i t t x w)
    (hpattern : pattern.RaisesExceptions)
    (hrange : ¬BackoffInRange (pattern.attempts (w.log.length + 1) (worker.batch t))) :
    Finishes failing i pattern (worker.syncOnce clock) w (fun r w' =>
      (∃ e, r = .error e) ∧ w'.server.committed = t) := by
  have hsession : Finishes failing i pattern (worker.syncOnce clock) w (fun r w' =>
      ∃ t₁ x₁, ((∃ e, r = .error e) ∧ t₁ = t) ∧ Alone i t₁ t₁ x₁ w') := by
    refine Alone.inSession_of failing_rollback (fun r t₁ _ => (∃ e, r = .error e) ∧ t₁ = t) ?_
    refine selectBatch_finishes h |>.bind ?_ (fun e w₁ hQ => by cases hQ.1.1)
    rintro records w₁ ⟨⟨heq, h₁⟩, hlog⟩
    cases heq
    obtain ⟨e, he⟩ := mapM_overflow clock hrange
    refine (syncRecords_finishes h₁ hpattern (worker.batch t) []).bind ?_ ?_
    · rintro outcomes w₂ ⟨heq, -⟩
      rw [hlog, he] at heq
      cases heq
    · rintro e' w₂ ⟨-, x₂, h₂⟩
      exact ⟨t, t, x₂, ⟨⟨e', rfl⟩, rfl⟩, h₂⟩
  refine hsession.post ?_
  rintro r w' ⟨t₁, x₁, ⟨hr, rfl⟩, h'⟩
  exact ⟨hr, h'.committed⟩

end

/-- A batch is lost exactly when the wait after a failure does not fit into a float. -/
theorem survivesFailures (worker : VectorSyncWorker) (clock : Uuid → DateTime)
    (pattern : FailurePattern) (t : Tables) (hpattern : pattern.RaisesExceptions) :
    SurvivesFailures worker clock pattern t ↔
      BackoffInRange (pattern.attempts 1 (worker.batch t)) := by
  have hstart : Alone () t t .empty (⟨.idle t, .empty, []⟩ : World Unit) := Alone.start () []
  constructor
  · intro hsurvives
    by_contra hrange
    obtain ⟨r, w, hrun, hr, -⟩ := hsurvives
    obtain ⟨r', w', hrun', ⟨e, hr'⟩, -⟩ :=
      syncOnce_overflow clock hstart hpattern hrange
    rw [hrun] at hrun'
    cases hrun'
    rw [hr] at hr'
    cases hr'
  · intro hrange
    exact syncOnce_inRange hstart hpattern hrange

/-! ## One record -/

/-- A fact that waits for its vector after some failed attempts. -/
def waitingRecord (syncRetryCount : Int) : AssistantMemoryRecord where
  id := .ofNat 1
  kind := "conversation_summary"
  ownerUserId := none
  siteCode := none
  requiredPermissions := []
  content := "The valve of line 2 leaks."
  contentSha256 := "0"
  sourceTurnIds := []
  sourceDocumentId := none
  vectorNamespace := "memory"
  vectorId := "1"
  embeddingModel := "embedding"
  createdAt := 0
  expiresAt := none
  syncRetryCount := syncRetryCount

def waiting (syncRetryCount : Int) : Tables :=
  { Tables.empty with memories := Table.empty.put (waitingRecord syncRetryCount) }

/-- The embedding client is down. -/
def clientDown : FailurePattern := fun _ => .lost ⟨"ConnectionError", "connection refused", true⟩

theorem clientDown_raisesExceptions : clientDown.RaisesExceptions := by
  intro n e he
  cases he
  rfl

theorem attempts_waiting (syncRetryCount : Int) :
    clientDown.attempts 1 (VectorSyncWorker.batch ⟨10⟩ (waiting syncRetryCount)) =
      [(waitingRecord syncRetryCount, some ⟨"ConnectionError", "connection refused", true⟩)] := by
  have hbatch : VectorSyncWorker.batch ⟨10⟩ (waiting syncRetryCount) =
      [waitingRecord syncRetryCount] := by
    change (List.mergeSort [waitingRecord syncRetryCount] _).take 10 = _
    rw [List.mergeSort_singleton]
    rfl
  rw [hbatch]
  rfl

theorem survivesFailures_fifth :
    SurvivesFailures ⟨10⟩ (fun _ => 0) clientDown (waiting 4) := by
  refine (survivesFailures ⟨10⟩ (fun _ => 0) clientDown (waiting 4)
    clientDown_raisesExceptions).mpr ?_
  rw [attempts_waiting]
  decide

/-- After 1023 failures the next one ends the worker. -/
theorem not_survivesFailures : ¬∀ worker clock pattern t,
    FailurePattern.RaisesExceptions pattern → SurvivesFailures worker clock pattern t := by
  intro hsurvives
  have hrange : ¬BackoffInRange
      (clientDown.attempts 1 (VectorSyncWorker.batch ⟨10⟩ (waiting 1023))) := by
    rw [attempts_waiting]
    decide
  obtain ⟨r, w, hrun, hr, -⟩ :=
    hsurvives ⟨10⟩ (fun _ => 0) clientDown (waiting 1023) clientDown_raisesExceptions
  obtain ⟨r', w', hrun', ⟨e, hr'⟩, -⟩ :=
    syncOnce_overflow (fun _ => 0) (Alone.start () []) clientDown_raisesExceptions hrange
  rw [hrun] at hrun'
  cases hrun'
  rw [hr] at hr'
  cases hr'

end HotAirBalloon.Memory
