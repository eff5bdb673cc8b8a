import HotAirBalloon.Memory.Ownership

/-!
# Isolation between users

Every program of a call keeps the invariant of `OwnershipInv` in every interleaving: a claim is the
first statement of its transaction, and the inserts of a call are of rows that it appends. What a
reader returns comes from rows that a call of its user sent, and a call whose ownership check finds
another owner can only roll back and raise.
-/

namespace HotAirBalloon.Memory

open Python Library Evidence

variable {ι : Type} [DecidableEq ι] {store : ConversationStore} {call : ι → Call} {i : ι}

def ownershipRely (store : ConversationStore) (call : ι → Call) :
    Rely ι PyError Op Op.Reply Delivery (World ι) where
  exec := exec
  cond := always
  inv := OwnershipInv store call
  guar := OwnershipGuar

/-! ## Rules -/

section

variable {α β : Type} {P : World ι → Prop} {op : Op}

theorem ownershipTriple {R : Except PyError op.Reply → World ι → Prop}
    (hadm : ∀ w, OwnershipInv store call w → P w → Admissible store call i op w)
    (hR : ∀ w delivery r w', OwnershipInv store call w → P w →
      exec i op delivery w = some (r, w') → R r w') :
    Triple (ownershipRely store call) i P op R := by
  intro w delivery r w' hinv hP _ hexec
  obtain ⟨hinv', hguar⟩ := hinv.of_exec (hadm w hinv hP) hexec
  exact ⟨hinv', hguar, hR w delivery r w' hinv hP hexec⟩

/-- A fact that a longer log keeps. -/
def LogMono (P : World ι → Prop) : Prop := ∀ w w', w.log <+: w'.log → P w → P w'

theorem LogMono.stable (h : LogMono P) : Stable (ownershipRely store call) i P :=
  fun w w' _ _ _ _ hguar hP => h w w' hguar.log hP

theorem stable_changes_nil :
    Stable (ownershipRely store call) i (fun w => w.server.changes i = []) := by
  intro w w' j hj _ _ hguar hnil
  rw [hguar.changes i (Ne.symm hj)]
  exact hnil

/-- Calls that ask for nothing: no ownership check, and no insert of a turn or of evidence. -/
def Quiet : Op → Prop
  | .sql (.claimConversation ..) | .sql (.selectOwnedConversation ..) | .sql (.insertTurn ..)
  | .sql (.insertEvidence ..) => False
  | _ => True

omit [DecidableEq ι] in
theorem admissible_of_quiet (h : Quiet op) (w : World ι) : Admissible store call i op w := by
  unfold Admissible
  split
  · exact False.elim h
  · exact False.elim h
  · exact False.elim h
  · trivial

theorem outline_of_quiet {p : Action α} (h : p.Calls Quiet) :
    Outline (ownershipRely store call) i (fun _ => True) p (fun _ _ => True) := by
  refine Outline.of_calls ?_ h
  intro op hop
  exact ownershipTriple (fun w _ _ => admissible_of_quiet hop w) (fun _ _ _ _ _ _ _ => trivial)

/-- A statement and what follows it, when nothing is asked of the result. -/
theorem outline_sql_bind {stmt : Sql} {f : stmt.Reply → Action β}
    (hadm : ∀ w, OwnershipInv store call w → P w → Admissible store call i (.sql stmt) w)
    (hf : ∀ a, Outline (ownershipRely store call) i (fun _ => True) (f a) (fun _ _ => True)) :
    Outline (ownershipRely store call) i P (sql stmt >>= f) (fun _ _ => True) := by
  have hsql : Outline (ownershipRely store call) i P (sql stmt) (fun _ _ => True) :=
    Outline.perform (fun _ => stable_const True)
      (ownershipTriple hadm (fun _ _ _ _ _ _ _ => trivial))
  exact Outline.bind hsql hf (fun _ _ _ _ => trivial)

/-- Closing the session keeps what a longer log keeps. -/
theorem outline_inSession {body : Action α} {Q : Except PyError α → World ι → Prop}
    (hmono : ∀ r, LogMono (Q r)) (h : Outline (ownershipRely store call) i P body Q) :
    Outline (ownershipRely store call) i P (inSession body) Q := by
  have hattempt : Outline (ownershipRely store call) i P body.attempt
      (fun r w => match r with
        | .ok result => Q result w
        | .error _ => False) :=
    Outline.attempt h (fun _ _ _ hQ => hQ)
  refine Outline.bind hattempt (fun result => ?_) (fun _ _ _ h => False.elim h)
  have hrollback : Outline (ownershipRely store call) i (Q result) (send .rollback)
      (fun _ => Q result) := by
    refine Outline.perform (fun _ => (hmono result).stable) (ownershipTriple ?_ ?_)
    · exact fun _ _ _ => trivial
    · intro w delivery r w' _ hQ hexec
      refine hmono result w w' ?_ hQ
      rw [exec_log hexec]
      exact List.prefix_append _ _
  have hclosed : Outline (ownershipRely store call) i (Q result) (send .rollback).attempt
      (fun r w => match r with
        | .ok _ => Q result w
        | .error _ => False) :=
    Outline.attempt hrollback (fun _ _ _ hQ => hQ)
  refine Outline.bind hclosed (fun _ => ?_) (fun _ _ _ h => False.elim h)
  exact Outline.ofExcept (fun _ _ hQ => hQ)

theorem outline_transaction {body : Action α}
    (h : Outline (ownershipRely store call) i P body (fun _ _ => True)) :
    Outline (ownershipRely store call) i P (transaction body) (fun _ _ => True) := by
  refine outline_inSession (fun _ _ _ _ _ => trivial) ?_
  refine Outline.bind h (fun a => ?_) (fun _ _ _ _ => trivial)
  exact outline_of_quiet (Prog.Calls.bind (Prog.Calls.perform trivial) (fun _ => Prog.Calls.pure a))

end

/-! ## The jobs -/

section

open Prog

variable {α : Type} {Pr : Op → Prop}

theorem calls_sql {stmt : Sql} (h : Pr (.sql stmt)) : (sql stmt).Calls Pr := Calls.perform h

theorem calls_send {op : Op} (h : Pr op) : (send op).Calls Pr := Calls.perform h

theorem calls_inSession {body : Action α} (hrollback : Pr .rollback) (h : body.Calls Pr) :
    (inSession body).Calls Pr :=
  Calls.bind h.attempt fun result =>
    Calls.bind (Calls.attempt (calls_send hrollback)) fun _ => Calls.ofExcept result

theorem calls_flushUpdate {update : Action Nat} (h : update.Calls Pr) :
    (flushUpdate update).Calls Pr := by
  refine Calls.bind h (fun matched => ?_)
  split
  · exact Calls.pure ()
  · exact Calls.raise _

theorem calls_unlessEmpty {ids : List Uuid} {stmt : List Uuid → Action Nat}
    (h : ∀ ids, (stmt ids).Calls Pr) : (ShortTermRetentionJob.unlessEmpty ids stmt).Calls Pr := by
  unfold ShortTermRetentionJob.unlessEmpty
  split
  · exact Calls.pure ()
  · exact Calls.bind (h ids) (fun _ => Calls.pure ())

theorem calls_requireRow (row : Option Uuid) : (requireRow row).Calls Pr := by
  cases row with
  | none => exact Calls.raise _
  | some _ => exact Calls.pure ()

/-- Calls that the jobs make: none of them claims, advances or closes a conversation, and none
inserts a turn or evidence. -/
def Background : Op → Prop
  | .sql (.claimConversation ..) | .sql (.selectOwnedConversation ..)
  | .sql (.advanceConversation ..) | .sql (.closeConversation ..) | .sql (.markConsolidated ..)
  | .sql (.insertTurn ..) | .sql (.updateTurnExpiry ..) | .sql (.insertEvidence ..) => False
  | _ => True

theorem quiet_of_background {op : Op} (h : Background op) : Quiet op := by
  cases op with
  | sql stmt => cases stmt <;> trivial
  | _ => trivial

theorem purgeExpired_background (job : ShortTermRetentionJob) (now : DateTime) :
    (job.purgeExpired now).Calls Background := by
  refine calls_inSession trivial ?_
  refine Calls.bind (calls_sql trivial) (fun expiredRows => ?_)
  refine Calls.bind (calls_unlessEmpty fun _ => calls_sql trivial) (fun _ => ?_)
  refine Calls.bind (calls_sql trivial) (fun conversationRows => ?_)
  refine Calls.bind ?_ (fun _ => ?_)
  · unfold ShortTermRetentionJob.eraseCheckpoints
    split
    · exact Calls.forEach (fun _ _ => calls_send trivial)
    · exact Calls.pure ()
  refine Calls.bind (calls_unlessEmpty fun _ => calls_sql trivial) (fun _ => ?_)
  exact Calls.bind (calls_send trivial) (fun _ => Calls.pure _)

theorem deleteVectors_background (records : List AssistantMemoryRecord) :
    (deleteVectors records).Calls Background :=
  Calls.foldEach fun _ _ _ => Calls.bind (calls_send trivial) (fun _ => Calls.pure _)

theorem eraseUserMemory_background (eraser : UserMemoryEraser) (ownerUserId : Uuid) :
    (eraser.eraseUserMemory ownerUserId).Calls Background := by
  refine Calls.bind (calls_inSession trivial ?_) (fun found => ?_)
  · refine Calls.bind (calls_sql trivial) (fun _ => ?_)
    exact Calls.bind (calls_sql trivial) (fun _ => Calls.pure _)
  refine Calls.bind (deleteVectors_background _) (fun _ => Calls.bind ?_ (fun _ => Calls.pure _))
  refine calls_inSession trivial ?_
  refine Calls.bind (calls_unlessEmpty fun _ => calls_sql trivial) (fun _ => ?_)
  refine Calls.bind (calls_sql trivial) (fun _ => ?_)
  refine Calls.bind (calls_unlessEmpty fun _ => calls_sql trivial) (fun _ => ?_)
  refine Calls.bind (calls_sql trivial) (fun _ => ?_)
  refine Calls.bind ?_ (fun _ => ?_)
  · unfold UserMemoryEraser.eraseCheckpoints
    split
    · exact Calls.forEach (fun _ _ => calls_send trivial)
    · exact Calls.pure ()
  refine Calls.bind (calls_unlessEmpty fun _ => calls_sql trivial) (fun _ => ?_)
  exact Calls.bind (calls_send trivial) (fun _ => Calls.pure _)

theorem record_background (repository : MemoryRecordRepository) (memory : MemoryRecordWrite)
    (memoryId : Uuid) (now : DateTime) :
    (repository.record memory memoryId now).Calls Background := by
  refine calls_inSession trivial (Calls.bind (Calls.ofExcept _) (fun _ => ?_))
  refine Calls.bind (calls_sql trivial) (fun _ => ?_)
  exact Calls.bind (calls_send trivial) (fun _ => Calls.pure _)

/-- The calls that promote a fact: on memory records and candidates, and the end of a session. -/
def OnFacts : Op → Prop
  | .sql (.selectUserFactForUpdate ..) | .sql (.insertMemory ..) | .sql (.updateSourceTurnIds ..)
  | .sql (.insertCandidate ..) | .sql (.selectCandidate ..) | .sql (.setPromotedRecord ..) | .commit
  | .rollback => True
  | _ => False

theorem background_of_onFacts {op : Op} (h : OnFacts op) : Background op := by
  cases op with
  | sql stmt =>
    cases stmt <;> trivial
  | _ => trivial

theorem calls_insertUserFact {row : AssistantMemoryRecord}
    {select : Action (Option AssistantMemoryRecord)} (hcommit : Pr .commit)
    (hrollback : Pr .rollback)
    (hinsert : Pr (.sql (.insertMemory row))) (hselect : select.Calls Pr) :
    (MemoryRecordRepository.insertUserFact row select).Calls Pr := by
  refine Calls.bind (Calls.attempt ?_) (fun committed => ?_)
  · exact Calls.bind (calls_sql hinsert) (fun _ => calls_send hcommit)
  split
  · exact Calls.pure _
  · split
    · refine Calls.bind (calls_send hrollback) (fun _ => Calls.bind hselect (fun found => ?_))
      cases found with
      | none => exact Calls.raise _
      | some _ => exact Calls.pure _
    · exact Calls.raise _

/-- The operations of `record_or_get_user_fact`. -/
theorem calls_recordOrGetUserFact (repository : MemoryRecordRepository) (memory : MemoryRecordWrite)
    (memoryId : Uuid) (now : DateTime) (hcommit : Pr .commit) (hrollback : Pr .rollback)
    (hselect : ∀ ownerUserId kind contentSha256,
      Pr (.sql (.selectUserFactForUpdate ownerUserId kind contentSha256)))
    (hsources : ∀ id sourceTurnIds, Pr (.sql (.updateSourceTurnIds id sourceTurnIds)))
    (hinsert : ∀ content contentSha256 row,
      repository.newRecord memory memoryId now content contentSha256 = .ok row →
        Pr (.sql (.insertMemory row))) :
    (repository.recordOrGetUserFact memory memoryId now).Calls Pr := by
  unfold MemoryRecordRepository.recordOrGetUserFact
  split
  · exact Calls.raise _
  split
  · exact Calls.raise _
  refine calls_inSession hrollback (Calls.bind (calls_sql (hselect _ _ _)) (fun found => ?_))
  cases found with
  | some existing =>
    refine Calls.bind ?_ (fun _ => Calls.bind (calls_send hcommit) (fun _ => Calls.pure _))
    unfold MemoryRecordRepository.flushSourceTurnIds
    split
    · exact Calls.pure ()
    · exact calls_flushUpdate (calls_sql (hsources _ _))
  | none =>
    show (Prog.ofExcept _ >>= _).Calls Pr
    cases hrow : repository.newRecord memory memoryId now (strip memory.content)
      (repository.contentHash memory.content) with
    | error e => exact Calls.raise e
    | ok row =>
      exact calls_insertUserFact hcommit hrollback (hinsert _ _ row hrow)
        (calls_sql (hselect _ _ _))

theorem recordOrGetUserFact_onFacts (repository : MemoryRecordRepository)
    (memory : MemoryRecordWrite) (memoryId : Uuid) (now : DateTime) :
    (repository.recordOrGetUserFact memory memoryId now).Calls OnFacts :=
  calls_recordOrGetUserFact repository memory memoryId now trivial trivial (fun _ _ _ => trivial)
    (fun _ _ => trivial) (fun _ _ _ _ => trivial)

theorem recordOrGetUserFact_background (repository : MemoryRecordRepository)
    (memory : MemoryRecordWrite) (memoryId : Uuid) (now : DateTime) :
    (repository.recordOrGetUserFact memory memoryId now).Calls Background :=
  (recordOrGetUserFact_onFacts repository memory memoryId now).mono (fun _ => background_of_onFacts)

theorem syncOnce_background (worker : VectorSyncWorker) (clock : Uuid → DateTime) :
    (worker.syncOnce clock).Calls Background := by
  refine calls_inSession trivial (Calls.bind (calls_sql trivial) (fun records => ?_))
  refine Calls.bind (Calls.foldEach fun outcomes record _ => ?_) (fun outcomes => ?_)
  · refine Calls.bind (Calls.bind (Calls.attempt ?_) (fun result => ?_)) (fun _ => Calls.pure _)
    · exact Calls.bind (calls_send trivial) (fun _ => calls_send trivial)
    · split
      · exact Calls.pure _
      · split
        · exact Calls.bind (Calls.ofExcept _) (fun _ => Calls.pure _)
        · exact Calls.raise _
  refine Calls.bind (Calls.forEach fun outcome _ => ?_) (fun _ => ?_)
  · cases outcome with
    | synced record syncedAt => exact calls_flushUpdate (calls_sql trivial)
    | failed record e => exact calls_flushUpdate (calls_sql trivial)
  · exact Calls.bind (calls_send trivial) (fun _ => Calls.pure _)

theorem reconcileOnce_background (job : ReconciliationJob) :
    job.reconcileOnce.Calls Background := by
  refine Calls.bind (calls_inSession trivial (calls_sql trivial)) (fun records => ?_)
  refine Calls.foldEach fun deletedCount vectorNamespace _ => ?_
  refine Calls.bind (calls_send trivial) (fun listed => ?_)
  dsimp only
  split
  · exact Calls.pure _
  · exact Calls.bind (calls_send trivial) (fun _ => Calls.pure _)

theorem purgeOnce_background (job : MemoryRetentionJob) (now : DateTime) :
    (job.purgeOnce now).Calls Background := by
  refine Calls.bind (calls_inSession trivial ?_) (fun softDeletedRecords => ?_)
  · refine Calls.bind (calls_sql trivial) (fun expiredRows => ?_)
    split
    · exact Calls.pure _
    · refine Calls.bind (Calls.forEach fun _ _ =>
        calls_flushUpdate (calls_sql trivial)) (fun _ => ?_)
      exact Calls.bind (calls_send trivial) (fun _ => Calls.pure _)
  refine Calls.bind ?_ (fun deleted => ?_)
  · refine Calls.bind (calls_inSession trivial (calls_sql trivial)) (fun softDeletedRows => ?_)
    split
    · exact Calls.pure _
    · refine Calls.bind (deleteVectors_background _) (fun deletedVectors => ?_)
      refine Calls.bind (calls_inSession trivial ?_) (fun _ => Calls.pure _)
      exact Calls.bind (calls_sql trivial) (fun _ => calls_send trivial)
  refine Calls.bind (calls_inSession trivial ?_) (fun deletedCandidates => Calls.pure _)
  refine Calls.bind (calls_sql trivial) (fun candidates => ?_)
  refine Calls.bind (Calls.forEach fun _ _ => ?_) (fun _ => ?_)
  · exact Calls.bind (calls_sql trivial) (fun _ => Calls.pure ())
  · exact Calls.bind (calls_send trivial) (fun _ => Calls.pure _)

theorem recordOutcome_onFacts (repository : FactCandidateRepository)
    (conversationId ownerUserId : Uuid)
    (fact : ExtractedFact) (decision reason : String) (candidateId : Uuid) (now : DateTime) :
    (repository.recordOutcome conversationId ownerUserId fact decision reason candidateId now).Calls
      OnFacts := by
  refine calls_inSession trivial (Calls.bind (calls_sql trivial) (fun _ => ?_))
  exact Calls.bind (calls_send trivial) (fun _ => Calls.pure _)

theorem markPromoted_onFacts (candidateId memoryRecordId : Uuid) :
    (FactCandidateRepository.markPromoted candidateId memoryRecordId).Calls OnFacts := by
  refine calls_inSession trivial (Calls.bind (calls_sql trivial) (fun found => ?_))
  cases found with
  | none => exact Calls.raise _
  | some candidate =>
    dsimp only
    split
    · exact calls_send trivial
    · exact Calls.bind (calls_flushUpdate (calls_sql trivial)) (fun _ => calls_send trivial)

theorem recordOutcome_background (repository : FactCandidateRepository)
    (conversationId ownerUserId : Uuid)
    (fact : ExtractedFact) (decision reason : String) (candidateId : Uuid) (now : DateTime) :
    (repository.recordOutcome conversationId ownerUserId fact decision reason candidateId now).Calls
      Background :=
  (recordOutcome_onFacts repository conversationId ownerUserId fact decision reason candidateId
    now).mono (fun _ => background_of_onFacts)

theorem markPromoted_background (candidateId memoryRecordId : Uuid) :
    (FactCandidateRepository.markPromoted candidateId memoryRecordId).Calls Background :=
  (markPromoted_onFacts candidateId memoryRecordId).mono (fun _ => background_of_onFacts)

end

/-! ## What readers return -/

omit [DecidableEq ι] in
theorem mem_recentTurns {conversationId ownerUserId : Uuid} {limit : Nat} {t : Tables}
    {row : ConversationTurnRecord} (h : row ∈ recentTurns conversationId ownerUserId limit t) :
    row ∈ t.turns ∧ row.conversationId = conversationId ∧ row.ownerUserId = ownerUserId := by
  have hsorted := List.mem_mergeSort.mp (List.mem_of_mem_take h)
  obtain ⟨hmem, hmatch⟩ := List.mem_filter.mp hsorted
  exact ⟨hmem, of_decide_eq_true hmatch⟩

omit [DecidableEq ι] in
theorem mem_recentEvidence {conversationId ownerUserId : Uuid} {now : DateTime} {limit : Nat}
    {t : Tables} {row : ConversationEvidenceRecord}
    (h : row ∈ recentEvidence conversationId ownerUserId now limit t) :
    row ∈ t.evidence ∧ row.conversationId = conversationId ∧ row.ownerUserId = ownerUserId := by
  have hsorted := List.mem_mergeSort.mp (List.mem_of_mem_take h)
  obtain ⟨hmem, hmatch⟩ := List.mem_filter.mp (List.mem_of_mem_filter hsorted)
  exact ⟨hmem, of_decide_eq_true hmatch⟩

/-- A turn that a call appended for an owner of a conversation. -/
def TurnReturned (call : ι → Call) (log : List (ι × Event)) (conversationId ownerUserId : Uuid)
    (turn : ConversationTurn) : Prop :=
  ∃ j row, Sent log j (.insertTurn row) ∧ row.ownerKey = (conversationId, ownerUserId) ∧
    ConversationStore.turnOf row = turn ∧
    (call j).AppendsTurn conversationId ownerUserId turn

/-- A snapshot that is read back from the row of one that a call appended. -/
def EvidenceReturned (store : ConversationStore) (call : ι → Call) (log : List (ι × Event))
    (conversationId ownerUserId : Uuid) (snapshot : ConversationEvidenceSnapshot) : Prop :=
  ∃ j appended row, Sent log j (.insertEvidence row) ∧ (call j).AppendsEvidence appended ∧
    appended.conversationId = conversationId ∧ appended.ownerUserId = ownerUserId ∧
    store.evidenceRecord row.id appended = .ok row ∧ store.snapshotOf row = .ok snapshot

/-- What a finished call may have returned. -/
def Returned (store : ConversationStore) (call : ι → Call) (i : ι)
    (r : Except PyError CallResult) (w : World ι) : Prop :=
  match call i, r with
  | .readRecent conversationId ownerUserId _, .ok (.turns turns) =>
    ∀ turn ∈ turns, TurnReturned call w.log conversationId ownerUserId turn
  | .readRecentEvidence conversationId ownerUserId _ _, .ok (.evidence snapshots) =>
    ∀ snapshot ∈ snapshots, EvidenceReturned store call w.log conversationId ownerUserId snapshot
  | _, _ => True

omit [DecidableEq ι] in
theorem evidenceRecord_ids {id : Uuid} {snapshot : ConversationEvidenceSnapshot}
    {row : ConversationEvidenceRecord} (h : store.evidenceRecord id snapshot = .ok row) :
    row.conversationId = snapshot.conversationId ∧ row.ownerUserId = snapshot.ownerUserId ∧
      row.id = id := by
  unfold ConversationStore.evidenceRecord at h
  cases hjson : snapshot.toJson store.py with
  | error e =>
    rw [hjson] at h
    cases h
  | ok payload =>
    rw [hjson] at h
    cases h
    exact ⟨rfl, rfl, rfl⟩

/-- Rows of which each has a property that a longer log keeps. -/
def AllGood {α : Type} (good : List (ι × Event) → α → Prop) (r : Except PyError (List α))
    (w : World ι) : Prop :=
  ∀ found, r = .ok found → ∀ a ∈ found, good w.log a

theorem outline_requireOwner {P : World ι → Prop} {conversationId ownerUserId : Uuid} :
    Outline (ownershipRely store call) i P
      (ConversationStore.requireOwner conversationId ownerUserId) (fun _ _ => True) :=
  outline_sql_bind (fun _ _ _ => trivial) (fun row => outline_of_quiet (calls_requireRow row))

section

variable {α : Type} {conversationId ownerUserId : Uuid} {limit : Int} {select : Action (List α)}
  {good : List (ι × Event) → α → Prop}

omit [DecidableEq ι] in
theorem AllGood.logMono (hmono : ∀ log log' a, log <+: log' → good log a → good log' a)
    (r : Except PyError (List α)) : LogMono (AllGood good r) :=
  fun _ _ hlog h found heq a ha => hmono _ _ a hlog (h found heq a ha)

/-- A select after the ownership check, when a limit asks for rows. -/
theorem outline_checkedSelect (hmono : ∀ log log' a, log <+: log' → good log a → good log' a)
    (hselect : Outline (ownershipRely store call) i (fun _ => True) select (AllGood good)) :
    Outline (ownershipRely store call) i (fun _ => True)
      (inSession do
        ConversationStore.requireOwner conversationId ownerUserId
        if limit ≤ 0 then return [] else select)
      (AllGood good) := by
  refine outline_inSession (AllGood.logMono hmono) ?_
  refine Outline.bind outline_requireOwner (fun _ => ?_) (fun e w _ _ found heq => by cases heq)
  split
  · refine Outline.pure ?_
    rintro w _ _ found ⟨⟩ a ha
    cases ha
  · exact hselect

end

theorem outline_selectRecentTurns (conversationId ownerUserId : Uuid) (limit : Nat) :
    Outline (ownershipRely store call) i (fun _ => True)
      (sql (.selectRecentTurns conversationId ownerUserId limit))
      (AllGood fun log row => TurnReturned call log conversationId ownerUserId
        (ConversationStore.turnOf row)) := by
  have hmono : ∀ log log' (row : ConversationTurnRecord), log <+: log' →
      TurnReturned call log conversationId ownerUserId (ConversationStore.turnOf row) →
      TurnReturned call log' conversationId ownerUserId (ConversationStore.turnOf row) := by
    rintro log log' row hlog ⟨j, row', hsent, hrest⟩
    exact ⟨j, row', hsent.mono hlog, hrest⟩
  refine Outline.perform (fun r => (AllGood.logMono hmono r).stable)
    (ownershipTriple (fun _ _ _ => trivial) ?_)
  intro w delivery r w' hinv _ hexec found heq row hrow
  subst heq
  obtain ⟨changes, houtcome⟩ := outcome_of_reply hexec
  cases houtcome
  obtain ⟨hmem, rfl, rfl⟩ := mem_recentTurns hrow
  obtain ⟨j, row', hsent, hkey, hturn, happends⟩ := hinv.visibleTurns i row hmem
  refine ⟨j, row', hsent.mono ?_, hkey, hturn, happends⟩
  rw [exec_log hexec]
  exact List.prefix_append _ _

/-- The row of a snapshot that a call appended to the conversation of an owner. -/
def EvidenceSent (store : ConversationStore) (call : ι → Call) (conversationId ownerUserId : Uuid)
    (log : List (ι × Event)) (row : ConversationEvidenceRecord) : Prop :=
  row.conversationId = conversationId ∧ row.ownerUserId = ownerUserId ∧
    EvidenceAppended store call log row

theorem outline_selectRecentEvidence (conversationId ownerUserId : Uuid) (now : DateTime)
    (limit : Nat) :
    Outline (ownershipRely store call) i (fun _ => True)
      (sql (.selectRecentEvidence conversationId ownerUserId now limit))
      (AllGood (EvidenceSent store call conversationId ownerUserId)) := by
  have hmono : ∀ log log' (row : ConversationEvidenceRecord), log <+: log' →
      EvidenceSent store call conversationId ownerUserId log row →
      EvidenceSent store call conversationId ownerUserId log' row :=
    fun log log' row hlog h => ⟨h.1, h.2.1, h.2.2.mono hlog⟩
  refine Outline.perform (fun r => (AllGood.logMono hmono r).stable)
    (ownershipTriple (fun _ _ _ => trivial) ?_)
  intro w delivery r w' hinv _ hexec found heq row hrow
  subst heq
  obtain ⟨changes, houtcome⟩ := outcome_of_reply hexec
  cases houtcome
  obtain ⟨hmem, hconversation, howner⟩ := mem_recentEvidence hrow
  refine ⟨hconversation, howner, (hinv.visibleEvidence i row hmem).mono ?_⟩
  rw [exec_log hexec]
  exact List.prefix_append _ _

/-! ## The operations of the store -/

theorem outline_claim {conversationId ownerUserId : Uuid} {observedAt : DateTime} :
    Outline (ownershipRely store call) i (fun w => w.server.changes i = [])
      (ConversationStore.claimOrValidateIn conversationId ownerUserId observedAt)
      (fun _ _ => True) :=
  outline_sql_bind (fun _ _ hnil => hnil) (fun row => outline_of_quiet (calls_requireRow row))

theorem outline_advance (conversationId ownerUserId : Uuid) (touchedAt : DateTime)
    (increment : Int) : Outline (ownershipRely store call) i (fun _ => True)
      (ConversationStore.advanceConversation conversationId ownerUserId touchedAt increment)
      (fun _ _ => True) :=
  outline_of_quiet
    (Prog.Calls.bind (calls_sql trivial) fun row => calls_requireRow row)

theorem outline_append {conversationId ownerUserId turnId : Uuid} {turn : ConversationTurn}
    (hcall : call i = .append conversationId turn ownerUserId turnId) :
    Outline (ownershipRely store call) i (fun w => w.server.changes i = [])
      (store.append conversationId turn ownerUserId turnId) (fun _ _ => True) := by
  refine outline_transaction (Outline.bind outline_claim (fun _ => ?_) (fun _ _ _ _ => trivial))
  refine Outline.bind (outline_advance _ _ _ _) (fun _ => ?_) (fun _ _ _ _ => trivial)
  refine outline_sql_bind ?_ (fun _ => Outline.pure fun _ _ _ => trivial)
  intro w _ _
  change (call i).AppendsTurn _ _ _
  rw [hcall]
  exact ⟨rfl, rfl, rfl⟩

omit [DecidableEq ι] in
theorem evidenceRecord?_some (id : Uuid) (snapshot : ConversationEvidenceSnapshot) :
    store.evidenceRecord? id (some snapshot) = (store.evidenceRecord id snapshot).map some := by
  change (store.evidenceRecord id snapshot >>= fun row => pure (some row)) = _
  cases store.evidenceRecord id snapshot <;> rfl

theorem outline_appendCompletedExchange {conversationId ownerUserId : Uuid}
    {userTurn assistantTurn : ConversationTurn} {evidence : Option ConversationEvidenceSnapshot}
    {userTurnId assistantTurnId evidenceId : Uuid}
    (hcall : call i = .appendCompletedExchange conversationId ownerUserId userTurn assistantTurn
      evidence userTurnId assistantTurnId evidenceId) :
    Outline (ownershipRely store call) i (fun w => w.server.changes i = [])
      (store.appendCompletedExchange conversationId ownerUserId userTurn assistantTurn evidence
        userTurnId assistantTurnId evidenceId) (fun _ _ => True) := by
  unfold ConversationStore.appendCompletedExchange
  split
  · exact Outline.raise (fun _ _ _ => trivial)
  refine outline_transaction (Outline.bind outline_claim (fun _ => ?_) (fun _ _ _ _ => trivial))
  cases hrow : store.evidenceRecord? evidenceId evidence with
  | error e => exact Outline.raise (fun _ _ _ => trivial)
  | ok evidenceRow =>
  change Outline
    (ownershipRely store call) i _ (ConversationStore.advanceConversation conversationId
    ownerUserId assistantTurn.createdAtUtc 2 >>= _) _
  refine Outline.bind (outline_advance _ _ _ _) (fun _ => ?_) (fun _ _ _ _ => trivial)
  refine outline_sql_bind ?_ (fun _ => outline_sql_bind ?_ (fun _ => ?_))
  · intro w _ _
    change (call i).AppendsTurn _ _ _
    rw [hcall]
    exact ⟨rfl, rfl, .inl rfl⟩
  · intro w _ _
    change (call i).AppendsTurn _ _ _
    rw [hcall]
    exact ⟨rfl, rfl, .inr rfl⟩
  · cases evidence with
    | none =>
      cases hrow
      exact Outline.pure (fun _ _ _ => trivial)
    | some snapshot =>
      rw [evidenceRecord?_some] at hrow
      cases hrecord : store.evidenceRecord evidenceId snapshot with
      | error e =>
        rw [hrecord] at hrow
        cases hrow
      | ok row =>
        rw [hrecord] at hrow
        cases hrow
        refine outline_sql_bind ?_ (fun _ => Outline.pure fun _ _ _ => trivial)
        intro w _ _
        refine ⟨snapshot, ?_, ?_⟩
        · rw [hcall]
          rfl
        · rw [(evidenceRecord_ids hrecord).2.2, hrecord]

theorem outline_appendEvidence {snapshot : ConversationEvidenceSnapshot} {evidenceId : Uuid}
    (hcall : call i = .appendEvidence snapshot evidenceId) :
    Outline (ownershipRely store call) i (fun w => w.server.changes i = [])
      (store.appendEvidence snapshot evidenceId) (fun _ _ => True) := by
  refine outline_transaction
    (Outline.bind outline_requireOwner (fun _ => ?_) (fun _ _ _ _ => trivial))
  cases hrecord : store.evidenceRecord evidenceId snapshot with
  | error e => exact Outline.raise (fun _ _ _ => trivial)
  | ok row =>
  change Outline (ownershipRely store call) i _ (sql (.insertEvidence row) >>= _) _
  refine outline_sql_bind ?_ (fun _ => Outline.pure fun _ _ _ => trivial)
  intro w _ _
  refine ⟨snapshot, ?_, ?_⟩
  · rw [hcall]
    rfl
  · rw [(evidenceRecord_ids hrecord).2.2, hrecord]

theorem outline_eraseEvidence {P : World ι → Prop} (conversationId ownerUserId : Uuid) :
    Outline (ownershipRely store call) i P
      (ConversationStore.eraseEvidence conversationId ownerUserId) (fun _ _ => True) :=
  outline_transaction (Outline.bind outline_requireOwner
    (fun _ => outline_of_quiet (calls_sql trivial)) (fun _ _ _ _ => trivial))

theorem outline_closeConversation {P : World ι → Prop} (conversationId ownerUserId : Uuid)
    (now : DateTime) :
    Outline (ownershipRely store call) i P
      (store.closeConversation conversationId ownerUserId now) (fun _ _ => True) := by
  refine outline_transaction
    (Outline.bind outline_requireOwner (fun _ => ?_) (fun _ _ _ _ => trivial))
  refine outline_of_quiet (Prog.Calls.bind (calls_sql trivial) (fun rows => ?_))
  refine Prog.Calls.bind (calls_sql trivial) (fun row => ?_)
  refine Prog.Calls.bind (calls_requireRow row) (fun _ => Prog.Calls.forEach ?_)
  exact fun _ _ => calls_flushUpdate (calls_sql trivial)

theorem outline_readRecent (conversationId ownerUserId : Uuid) (limit : Int) :
    Outline (ownershipRely store call) i (fun _ => True)
      (ConversationStore.readRecent conversationId ownerUserId limit)
      (AllGood fun log turn => TurnReturned call log conversationId ownerUserId turn) := by
  have hmono : ∀ log log' (row : ConversationTurnRecord), log <+: log' →
      TurnReturned call log conversationId ownerUserId (ConversationStore.turnOf row) →
      TurnReturned call log' conversationId ownerUserId (ConversationStore.turnOf row) := by
    rintro log log' row hlog ⟨j, row', hsent, hrest⟩
    exact ⟨j, row', hsent.mono hlog, hrest⟩
  refine Outline.bind
    (outline_checkedSelect hmono (outline_selectRecentTurns conversationId ownerUserId limit.toNat))
    (fun records => Outline.pure ?_) (fun e w _ _ found heq => by cases heq)
  rintro w _ hrecords found ⟨⟩ turn hturn
  obtain ⟨row, hrow, rfl⟩ := List.mem_map.mp hturn
  exact hrecords records rfl row (List.mem_reverse.mp hrow)

omit [DecidableEq ι] in
theorem mem_of_mapM_eq_ok {α β : Type} {f : α → Except PyError β} {as : List α} {bs : List β}
    (h : as.mapM f = .ok bs) : ∀ b ∈ bs, ∃ a ∈ as, f a = .ok b := by
  induction as generalizing bs with
  | nil =>
    cases h
    exact fun b hb => absurd hb List.not_mem_nil
  | cons a as ih =>
    rw [List.mapM_cons] at h
    cases hfirst : f a with
    | error e =>
      rw [hfirst] at h
      cases h
    | ok b =>
    cases hrest : as.mapM f with
    | error e =>
      rw [hfirst, hrest] at h
      cases h
    | ok rest =>
    rw [hfirst, hrest] at h
    cases h
    intro b' hb'
    rcases List.mem_cons.mp hb' with rfl | hmem
    · exact ⟨a, List.mem_cons_self, hfirst⟩
    · obtain ⟨a', ha', heq⟩ := ih hrest b' hmem
      exact ⟨a', List.mem_cons_of_mem a ha', heq⟩

theorem outline_readRecentEvidence (conversationId ownerUserId : Uuid) (limit : Int)
    (now : DateTime) : Outline (ownershipRely store call) i (fun _ => True)
      (store.readRecentEvidence conversationId ownerUserId limit now)
      (AllGood fun log snapshot =>
        EvidenceReturned store call log conversationId ownerUserId snapshot) := by
  have hmono : ∀ log log' (row : ConversationEvidenceRecord), log <+: log' →
      EvidenceSent store call conversationId ownerUserId log row →
      EvidenceSent store call conversationId ownerUserId log' row :=
    fun log log' row hlog h => ⟨h.1, h.2.1, h.2.2.mono hlog⟩
  refine Outline.bind (outline_checkedSelect hmono
      (outline_selectRecentEvidence conversationId ownerUserId now limit.toNat))
    (fun records => Outline.ofExcept ?_) (fun e w _ _ found heq => by cases heq)
  intro w _ hrecords found heq snapshot hsnapshot
  obtain ⟨row, hrow, hread⟩ := mem_of_mapM_eq_ok heq snapshot hsnapshot
  obtain ⟨rfl, rfl, j, appended, hsent, happends, hrecord⟩ :=
    hrecords records rfl row (List.mem_reverse.mp hrow)
  obtain ⟨hconversation, howner, -⟩ := evidenceRecord_ids hrecord
  exact ⟨j, appended, row, hsent, happends, hconversation.symm, howner.symm, hrecord, hread⟩

/-! ## Every call -/

/-- The calls that return turns or evidence. -/
def Call.reads : Call → Bool
  | readRecent .. | readRecentEvidence .. => true
  | _ => false

omit [DecidableEq ι] in
theorem returned_of_reads_eq_false (h : (call i).reads = false) (r : Except PyError CallResult)
    (w : World ι) : Returned store call i r w := by
  unfold Returned
  split
  · rename_i heq
    rw [heq] at h
    cases h
  · rename_i heq
    rw [heq] at h
    cases h
  · trivial

/-- A program of a call that returns no turns and no evidence. -/
theorem outline_of_reads_eq_false {α : Type} {P : World ι → Prop} {p : Action α}
    {f : α → Action CallResult} (hreads : (call i).reads = false)
    (h : Outline (ownershipRely store call) i P p (fun _ _ => True))
    (hf : ∀ a, (f a).Calls Quiet) :
    Outline (ownershipRely store call) i P (p >>= f) (Returned store call i) := by
  have hbind := Outline.bind h (fun a => outline_of_quiet (hf a)) (fun _ _ _ h => h)
  exact hbind.post (fun r w _ _ => returned_of_reads_eq_false hreads r w)

theorem outline_background_call {α : Type} {P : World ι → Prop} {p : Action α}
    {f : α → Action CallResult} (hreads : (call i).reads = false) (h : p.Calls Background)
    (hf : ∀ a, (f a).Calls Quiet) :
    Outline (ownershipRely store call) i P (p >>= f) (Returned store call i) :=
  outline_of_reads_eq_false hreads
    ((outline_of_quiet (h.mono fun _ => quiet_of_background)).pre (fun _ _ _ => trivial)) hf

/-- Every call has an outline, from a session that has changed nothing to what it returns. -/
theorem outline_call (components : Components) (hstore : components.store = store) :
    Outline (ownershipRely store call) i (fun w => w.server.changes i = [])
      ((call i).program components) (Returned store call i) := by
  have hdone : ∀ (r : CallResult), (pure r : Action CallResult).Calls Quiet :=
    fun r => Prog.Calls.pure r
  cases hcall : call i with
  | claimOrValidate c u o =>
    exact outline_of_reads_eq_false (by rw [hcall]; rfl) (outline_transaction outline_claim)
      (fun _ => hdone _)
  | readRecent c u limit =>
    refine Outline.bind ((outline_readRecent c u limit).pre (fun _ _ _ => trivial))
      (fun turns => Outline.pure ?_) ?_
    · intro w _ hturns
      unfold Returned
      rw [hcall]
      exact hturns turns rfl
    · intro e w _ _
      unfold Returned
      rw [hcall]
      trivial
  | append c turn u id =>
    subst hstore
    exact outline_of_reads_eq_false (by rw [hcall]; rfl) (outline_append hcall) (fun _ => hdone _)
  | appendCompletedExchange c u userTurn assistantTurn evidence userId assistantId evidenceId =>
    subst hstore
    exact outline_of_reads_eq_false (by rw [hcall]; rfl) (outline_appendCompletedExchange hcall)
      (fun _ => hdone _)
  | readRecentEvidence c u limit now =>
    subst hstore
    refine Outline.bind ((outline_readRecentEvidence c u limit now).pre (fun _ _ _ => trivial))
      (fun snapshots => Outline.pure ?_) ?_
    · intro w _ hsnapshots
      unfold Returned
      rw [hcall]
      exact hsnapshots snapshots rfl
    · intro e w _ _
      unfold Returned
      rw [hcall]
      trivial
  | appendEvidence snapshot id =>
    subst hstore
    exact outline_of_reads_eq_false (by rw [hcall]; rfl) (outline_appendEvidence hcall)
      (fun _ => hdone _)
  | eraseEvidence c u =>
    exact outline_of_reads_eq_false (by rw [hcall]; rfl) (outline_eraseEvidence c u)
      (fun _ => hdone _)
  | closeConversation c u now =>
    subst hstore
    exact outline_of_reads_eq_false (by rw [hcall]; rfl) (outline_closeConversation c u now)
      (fun _ => hdone _)
  | purgeExpired now =>
    exact outline_background_call (by rw [hcall]; rfl) (purgeExpired_background _ now)
      (fun _ => hdone _)
  | record memory id now =>
    exact outline_background_call (by rw [hcall]; rfl) (record_background _ memory id now)
      (fun _ => hdone _)
  | recordOrGetUserFact memory id now =>
    exact outline_background_call (by rw [hcall]; rfl)
      (recordOrGetUserFact_background _ memory id now) (fun _ => hdone _)
  | syncOnce clock =>
    exact outline_background_call (by rw [hcall]; rfl) (syncOnce_background _ clock)
      (fun _ => hdone _)
  | reconcileOnce =>
    exact outline_background_call (by rw [hcall]; rfl) (reconcileOnce_background _)
      (fun _ => hdone _)
  | purgeOnce now =>
    exact outline_background_call (by rw [hcall]; rfl) (purgeOnce_background _ now)
      (fun _ => hdone _)
  | eraseUserMemory u =>
    exact outline_background_call (by rw [hcall]; rfl) (eraseUserMemory_background _ u)
      (fun _ => hdone _)
  | recordOutcome c u fact decision reason id now =>
    exact outline_background_call (by rw [hcall]; rfl)
      (recordOutcome_background _ c u fact decision reason id now) (fun _ => hdone _)
  | markPromoted id recordId =>
    exact outline_background_call (by rw [hcall]; rfl) (markPromoted_background id recordId)
      (fun _ => hdone _)

end HotAirBalloon.Memory
