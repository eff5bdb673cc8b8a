import HotAirBalloon.Library.Traverse
import HotAirBalloon.Memory.Consolidation
import HotAirBalloon.Memory.TurnHistory
import HotAirBalloon.Memory.UserFacts

/-!
# Runs of the consolidation worker

One process runs `consolidate_once` again and again. A run is watched: whether it has committed a
candidate, and whether a call has failed since. The rules say what a call does to the two sessions
of the process, of which one has changes that are not committed at most, and what it leaves when it
fails.
-/

namespace HotAirBalloon.Memory

open Python Library

/-! ## What is kept -/

/-- What a promoted fact hands over that its record has to hold. -/
def factWrite (fact : ExtractedFact) (ownerUserId : Uuid) (sourceTurnIds : List Uuid) :
    MemoryRecordWrite where
  kind := "conversation_summary"
  content := fact.statement
  ownerUserId := some ownerUserId
  siteCode := none
  requiredPermissions := []
  sourceTurnIds := sourceTurnIds

/-- The fact that a candidate was recorded for. -/
def AssistantMemoryCandidate.fact (candidate : AssistantMemoryCandidate) : ExtractedFact where
  statement := candidate.statement
  factClass := candidate.factClass
  evidenceTurnIds := candidate.evidenceTurnIds
  entityRefs := candidate.entityRefs
  explicitlyStated := candidate.explicitlyStated

/-- The candidate of a fact: it has the decision of the policy, and when that is to accept the fact,
it points to the record of the fact. -/
structure CandidateOf (worker : ConsolidationWorker) (ownerUserId : Uuid)
    (sourceTurnIds : List Uuid)
    (t : Tables) (fact : ExtractedFact) (candidate : AssistantMemoryCandidate) : Prop where
  fact_eq : candidate.fact = fact
  owner : candidate.ownerUserId = ownerUserId
  decided : ∃ now,
    candidate.decision = (worker.factPolicy.evaluate fact sourceTurnIds now).decision.value
  promoted : candidate.decision = FactDecision.accepted.value → ∃ record ∈ t.memories,
    candidate.promotedMemoryRecordId = some record.id ∧
      Holds worker.memoryStore (factWrite fact ownerUserId sourceTurnIds) record

/-- The ids of the turns of a conversation. -/
def sourceTurns (conversationId : Uuid) (t : Tables) : List Uuid :=
  (conversationTurns conversationId t).map (·.id)

/-- What the extractor finds in a conversation; it is asked about two turns or more. -/
def extractedFacts (outside : Outside Unit) (conversationId : Uuid) (t : Tables) :
    List ExtractedFact :=
  let turns := conversationTurns conversationId t
  if turns.length < 2 then []
  else outside.extract () (turns.map ConsolidationWorker.conversationTurn)

/-- No candidate of the conversation, and no record with one of its turns. -/
structure Untouched (row : AssistantConversationRecord) (t : Tables) : Prop where
  candidates : ∀ candidate ∈ t.candidates, candidate.conversationId ≠ row.id
  memories : ∀ record ∈ t.memories, ∀ id ∈ sourceTurns row.id t, id ∉ record.sourceTurnIds

/-- One candidate of the conversation for each of its facts. -/
def Consolidated (outside : Outside Unit) (worker : ConsolidationWorker)
    (row : AssistantConversationRecord) (t : Tables) : Prop :=
  List.Forall₂ (CandidateOf worker row.ownerUserId (sourceTurns row.id t) t)
    (extractedFacts outside row.id t)
    (t.candidates.rows.filter fun candidate => candidate.conversationId = row.id)

/-- The conversations that are marked, or done in the present run, are consolidated, and the others
are untouched. -/
def PartlyDone (outside : Outside Unit) (worker : ConsolidationWorker)
    (done : List AssistantConversationRecord) (t : Tables) : Prop :=
  ∀ row ∈ t.conversations,
    (row.consolidatedAt = none → (∀ other ∈ done, other.id ≠ row.id) → Untouched row t) ∧
    (row.consolidatedAt ≠ none ∨ (∃ other ∈ done, other.id = row.id) →
      Consolidated outside worker row t)

/-- A conversation is consolidated when it is marked, and untouched otherwise. -/
def AllOrNothing (outside : Outside Unit) (worker : ConsolidationWorker) (t : Tables) : Prop :=
  ∀ row ∈ t.conversations, (row.consolidatedAt = none → Untouched row t) ∧
    (row.consolidatedAt ≠ none → Consolidated outside worker row t)

/-- Every fact of the conversation has a candidate, and every fact that the policy accepts a
record. -/
def FactsKept (outside : Outside Unit) (worker : ConsolidationWorker)
    (row : AssistantConversationRecord) (t : Tables) : Prop :=
  ∀ fact ∈ extractedFacts outside row.id t, ∃ candidate ∈ t.candidates,
    candidate.conversationId = row.id ∧
      CandidateOf worker row.ownerUserId (sourceTurns row.id t) t fact candidate

/-- Every marked conversation has its facts. -/
def NothingLost (outside : Outside Unit) (worker : ConsolidationWorker) (t : Tables) : Prop :=
  ∀ row ∈ t.conversations, row.consolidatedAt ≠ none → FactsKept outside worker row t

/-! ## Runs -/

/-- The sessions of the process, whether its run has committed a candidate, and whether a call has
failed since. -/
structure Batch where
  world : World (Unit × Bool)
  recorded : Bool := false
  broken : Bool := false

/-- A call without an answer counts, unless it is a rollback, or the commit of the worker and was
carried out. -/
def countsAsFailed (op : WorkerOp) (answered : Bool) (w' : World (Unit × Bool)) : Bool :=
  !answered && match op with
    | .main .rollback | .nested .rollback => false
    | .main .commit => !(w'.server.changes ((), false)).isEmpty
    | _ => true

def Batch.after (h : Batch) (op : WorkerOp) (answered : Bool) (w' : World (Unit × Bool)) : Batch :=
  let recorded := h.recorded || decide
    (w'.server.committed.candidates.rows ≠ h.world.server.committed.candidates.rows)
  ⟨w', recorded, h.broken || (recorded && countsAsFailed op answered w')⟩

def watchedExec (outside : Outside Unit) :
    Exec Unit PyError WorkerOp WorkerOp.Reply Delivery Batch := fun i op delivery h =>
  (workerExec outside i op delivery h.world).map fun (reply, w') =>
    (reply, h.after op reply.isOk w')

abbrev BatchSystem := Config Unit PyError WorkerOp WorkerOp.Reply Batch Nat

/-- The end of a run of `consolidate_once`, in which any calls may have failed. -/
structure EndOfRun (outside : Outside Unit) (worker : ConsolidationWorker) (w : World (Unit × Bool))
    (c : BatchSystem) : Prop where
  steps : ∃ draws, Steps (watchedExec outside) always
    ⟨{ world := w }, fun _ => worker.consolidateOnce draws⟩ c
  done : ∃ r, c.programs () = .done r

/-- A run of `consolidate_once` from its beginning to its end. -/
def ConsolidationRun (outside : Outside Unit) (worker : ConsolidationWorker)
    (w w' : World (Unit × Bool)) : Prop :=
  ∃ c, EndOfRun outside worker w c ∧ c.world.world = w'

/-- A run in which no call has failed after the first candidate was committed. -/
def UnbrokenRun (outside : Outside Unit) (worker : ConsolidationWorker)
    (w w' : World (Unit × Bool)) : Prop :=
  ∃ c, EndOfRun outside worker w c ∧ c.world.broken = false ∧ c.world.world = w'

/-! ## The two sessions -/

/-- A session has some changes that are not committed, and the other has none. -/
structure InSession (b : Bool) (t : Tables) (pending : List Change) (recorded : Bool) (h : Batch) :
    Prop where
  committed : h.world.server.committed = t
  pending : h.world.server.changes ((), b) = pending
  other : h.world.server.changes ((), !b) = []
  recorded : h.recorded = recorded

/-- Later tables of a run: conversations and turns are the same, and no record is lost, nor a
candidate that has its record or needs none. -/
structure Later (t t' : Tables) : Prop where
  conversations : t'.conversations = t.conversations
  turns : t'.turns = t.turns
  candidates : ∀ candidate ∈ t.candidates, (candidate.decision = FactDecision.accepted.value →
    candidate.promotedMemoryRecordId ≠ none) → candidate ∈ t'.candidates
  memories : ∀ record ∈ t.memories, ∃ record' ∈ t'.memories, Grown record record'

/-- After an error. The tables are as they were, unless a candidate has been committed. -/
def Failed (b : Bool) (t : Tables) (recorded : Bool) (h : Batch) : Prop :=
  ∃ t' pending recorded', InSession b t' pending recorded' h ∧ Later t t' ∧
    (h.broken = false → recorded' = false ∧ recorded = false ∧ t' = t)

/-- After a commit without an answer: it was lost, or it was carried out. -/
def CommitFailed (b : Bool) (t : Tables) (pending : List Change) (recorded recorded' : Bool)
    (h : Batch) : Prop :=
  (InSession b t pending recorded h ∧ (h.broken = false → recorded = false)) ∨
    (InSession b (afterChanges pending t) [] recorded' h ∧
      (h.broken = false → recorded' = false ∨ b = false))

/-- Whether a candidate has been committed after some changes are. -/
def recordedBy (pending : List Change) (t : Tables) (recorded : Bool) : Bool :=
  recorded || decide ((afterChanges pending t).candidates.rows ≠ t.candidates.rows)

/-- The call of a session. -/
def WorkerOp.ofSession : Bool → Op → WorkerOp
  | false, op => .main op
  | true, op => .nested op

def sessionExec (b : Bool) : Exec Unit PyError Op Op.Reply Delivery Batch := fun _ op delivery h =>
  (exec ((), b) op delivery h.world).map fun (reply, w') =>
    (reply, h.after (.ofSession b op) reply.isOk w')

def sessionRely (b : Bool) : Rely Unit PyError Op Op.Reply Delivery Batch where
  exec := sessionExec b
  cond := always
  inv _ := True
  guar _ _ _ := True

def batchRely (outside : Outside Unit) :
    Rely Unit PyError WorkerOp WorkerOp.Reply Delivery Batch where
  exec := watchedExec outside
  cond := always
  inv _ := True
  guar _ _ _ := True

section

variable {b : Bool} {t t' t'' : Tables} {pending : List Change}
  {recorded recorded' : Bool} {h : Batch} {α : Type}

theorem Later.refl (t : Tables) : Later t t where
  conversations := rfl
  turns := rfl
  candidates _ hcandidate _ := hcandidate
  memories record hrecord := ⟨record, hrecord, .refl record⟩

theorem Later.trans (h : Later t t') (h' : Later t' t'') : Later t t'' where
  conversations := h'.conversations.trans h.conversations
  turns := h'.turns.trans h.turns
  candidates candidate hcandidate hready :=
    h'.candidates candidate (h.candidates candidate hcandidate hready) hready
  memories record hrecord := by
    obtain ⟨record', hrecord', hgrown⟩ := h.memories record hrecord
    obtain ⟨record'', hrecord'', hgrown'⟩ := h'.memories record' hrecord'
    exact ⟨record'', hrecord'', hgrown.trans hgrown'⟩

theorem Failed.of_in {b : Bool} (hin : InSession b t pending recorded h)
    (hbroken : h.broken = false → recorded = false) : Failed b t recorded h :=
  ⟨t, pending, recorded, hin, .refl t, fun hunbroken => ⟨hbroken hunbroken, hbroken hunbroken, rfl⟩⟩

/-- An error after some steps is an error of the whole. -/
theorem Failed.after (hfailed : Failed b t' recorded' h) (hlater : Later t t')
    (hnone : recorded' = false → recorded = false ∧ t' = t) : Failed b t recorded h := by
  obtain ⟨t'', pending, recorded'', hin, hlater', hbroken⟩ := hfailed
  refine ⟨t'', pending, recorded'', hin, hlater.trans hlater', ?_⟩
  intro hunbroken
  obtain ⟨hrecorded'', hrecorded', rfl⟩ := hbroken hunbroken
  obtain ⟨hrecorded, rfl⟩ := hnone hrecorded'
  exact ⟨hrecorded'', hrecorded, rfl⟩

theorem InSession.switch (hin : InSession b t [] recorded h) : InSession (!b) t [] recorded h where
  committed := hin.committed
  pending := hin.other
  other := by rw [Bool.not_not]; exact hin.pending
  recorded := hin.recorded

theorem InSession.visible (hin : InSession b t pending recorded h) :
    h.world.visible ((), b) = afterChanges pending t := by
  unfold World.visible Server.visible
  rw [hin.pending, hin.committed]

theorem outline_nested {outside : Outside Unit} {P : Batch → Prop} {p : Action α}
    {Q : Except PyError α → Batch → Prop} (hp : Outline (sessionRely true) () P p Q) :
    Outline (batchRely outside) () P (inNested p) Q := by
  refine Outline.embed (fun _ hinv => hinv) (fun _ _ => stable_of_subsingleton _) ?_ hp
  exact fun _ _ _ htriple => htriple

theorem outline_main {outside : Outside Unit} {P : Batch → Prop} {p : Action α}
    {Q : Except PyError α → Batch → Prop} (hp : Outline (sessionRely false) () P p Q) :
    Outline (batchRely outside) () P (inMain p) Q := by
  refine Outline.embed (fun _ hinv => hinv) (fun _ _ => stable_of_subsingleton _) ?_ hp
  exact fun _ _ _ htriple => htriple

/-- A call of a session, by its cases. -/
theorem outline_session_call {op : Op} {P : Batch → Prop}
    {Q : Except PyError op.Reply → Batch → Prop}
    (hstep : ∀ h delivery r w', P h → exec ((), b) op delivery h.world = some (r, w') →
      Q r (h.after (.ofSession b op) r.isOk w')) :
    Outline (sessionRely b) () P (send op) Q := by
  refine Outline.perform (fun _ => stable_of_subsingleton _) ?_
  intro h delivery r h' _ hP _ hexec
  obtain ⟨⟨r', w'⟩, hexec', heq⟩ := Option.map_eq_some_iff.mp hexec
  cases heq
  exact ⟨trivial, trivial, hstep h delivery r w' hP hexec'⟩

theorem recorded_after {op : WorkerOp} {answered : Bool} {w' : World (Unit × Bool)}
    (hcommitted : w'.server.committed = h.world.server.committed) :
    (h.after op answered w').recorded = h.recorded := by
  unfold Batch.after
  simp [hcommitted]

theorem not_broken_after {op : WorkerOp} {e : PyError} {w' : World (Unit × Bool)} {α : Type}
    (hcounts : countsAsFailed op (Except.error e : Except PyError α).isOk w' = true)
    (hbroken : (h.after op (Except.error e : Except PyError α).isOk w').broken = false) :
    (h.after op (Except.error e : Except PyError α).isOk w').recorded = false := by
  unfold Batch.after at hbroken ⊢
  simp only [hcounts, Bool.and_true, Bool.or_eq_false_iff] at hbroken ⊢
  exact hbroken.2

/-- What a call leaves of the sessions that did not commit and were not changed by it. -/
theorem InSession.of_server {w' : World (Unit × Bool)} (op : WorkerOp) (answered : Bool)
    (hin : InSession b t pending recorded h) (hserver : w'.server = h.world.server) :
    InSession b t pending recorded (h.after op answered w') where
  committed := (congrArg Server.committed hserver).trans hin.committed
  pending := (congrArg (fun s => s.changes ((), b)) hserver).trans hin.pending
  other := (congrArg (fun s => s.changes ((), !b)) hserver).trans hin.other
  recorded := (recorded_after (congrArg Server.committed hserver)).trans hin.recorded

theorem InSession.of_executed {w' : World (Unit × Bool)} (op : WorkerOp) (answered : Bool)
    {stmt : Sql} {changes : List Change} (hin : InSession b t pending recorded h)
    (hexecuted : Executed ((), b) stmt h.world w' changes) :
    InSession b t (pending ++ changes) recorded (h.after op answered w') where
  committed := hexecuted.committed.trans hin.committed
  pending := by
    change w'.server.changes ((), b) = _
    rw [hexecuted.changes_eq, Function.update_self, hin.pending]
  other := by
    change w'.server.changes ((), !b) = _
    rw [hexecuted.changes_eq, Function.update_of_ne (by simp), hin.other]
  recorded := (recorded_after hexecuted.committed).trans hin.recorded

theorem broken_after {op : WorkerOp} {answered : Bool} {w' : World (Unit × Bool)}
    (hbroken : h.broken = true) : (h.after op answered w').broken = true := by
  unfold Batch.after
  dsimp only
  rw [hbroken, Bool.true_or]

/-- A statement: it returns with the changes of its outcome, or is interrupted. A call that has
failed before it stays failed. -/
theorem outline_statementAfter (failed : Bool) {stmt : Sql} {Q : stmt.Reply → Batch → Prop}
    (hok : ∀ locked a changes h,
      (stmt.effect locked (afterChanges pending t)).outcome = .ok (a, changes) →
      InSession b t (pending ++ changes) recorded h → (failed = true → h.broken = true) → Q a h) :
    Outline (sessionRely b) ()
      (fun h => InSession b t pending recorded h ∧ (failed = true → h.broken = true)) (sql stmt)
      (okOr Q (fun h => ∃ pending, InSession b t pending recorded h ∧
        (failed = true → h.broken = true) ∧ (h.broken = false → recorded = false))) := by
  refine outline_session_call ?_
  rintro h delivery r w' ⟨hin, hfailed⟩ hexec
  cases r with
  | ok a =>
    obtain ⟨changes, houtcome, hexecuted⟩ := executed_of_ok hexec
    unfold World.effect at houtcome
    rw [hin.visible] at houtcome
    exact hok _ a changes _ houtcome (hin.of_executed _ _ hexecuted) fun hf =>
      broken_after (hfailed hf)
  | error e =>
    have hcounts : countsAsFailed (.ofSession b (.sql stmt))
        (Except.error e : Except PyError stmt.Reply).isOk w' = true := by cases b <;> rfl
    rcases server_cases hexec with hserver | ⟨stmt', changes, -, hexecuted⟩ | ⟨hop, -⟩ | ⟨hop, -⟩
    · have hin' := hin.of_server (.ofSession b (.sql stmt))
        (Except.error e : Except PyError stmt.Reply).isOk hserver
      exact ⟨_, hin', fun hf => broken_after (hfailed hf),
        fun hbroken => hin'.recorded.symm.trans (not_broken_after hcounts hbroken)⟩
    · have hin' := hin.of_executed (.ofSession b (.sql stmt))
        (Except.error e : Except PyError stmt.Reply).isOk hexecuted
      exact ⟨_, hin', fun hf => broken_after (hfailed hf),
        fun hbroken => hin'.recorded.symm.trans (not_broken_after hcounts hbroken)⟩
    · cases hop
    · cases hop

theorem outline_statementIn {stmt : Sql} {Q : stmt.Reply → Batch → Prop}
    (hok : ∀ locked a changes h,
      (stmt.effect locked (afterChanges pending t)).outcome = .ok (a, changes) →
      InSession b t (pending ++ changes) recorded h → Q a h) :
    Outline (sessionRely b) () (InSession b t pending recorded) (sql stmt)
      (okOr Q (Failed b t recorded)) := by
  refine Outline.postOr (Outline.pre (outline_statementAfter false (Q := Q) ?_)
    (fun _ _ hin => ⟨hin, fun hfalse => Bool.noConfusion hfalse⟩)) (fun _ _ hQ => hQ) ?_
  · exact fun locked a changes h houtcome hin _ => hok locked a changes h houtcome hin
  · rintro h ⟨pending, hin, -, hbroken⟩
    exact .of_in hin hbroken

theorem InSession.of_commit {w' : World (Unit × Bool)} (op : WorkerOp) (answered : Bool)
    (hin : InSession b t pending recorded h)
    (hserver : w'.server = h.world.server.commit Change.apply ((), b)) :
    InSession b (afterChanges pending t) [] (recordedBy pending t recorded)
      (h.after op answered w') := by
  have hcommitted : w'.server.committed = afterChanges pending t := by
    rw [hserver]
    exact hin.visible
  refine ⟨hcommitted, ?_, ?_, ?_⟩
  · change w'.server.changes ((), b) = _
    rw [hserver]
    exact Function.update_self ..
  · change w'.server.changes ((), !b) = _
    rw [hserver]
    exact (Function.update_of_ne (by simp) _ _).trans hin.other
  · unfold Batch.after recordedBy
    dsimp only
    rw [hcommitted, hin.committed, hin.recorded]

/-- A commit: it is carried out, or fails. -/
theorem outline_commitIn {Q : Batch → Prop}
    (hok : ∀ h, InSession b (afterChanges pending t) [] (recordedBy pending t recorded) h → Q h) :
    Outline (sessionRely b) () (InSession b t pending recorded) (send .commit)
      (okOr (fun _ => Q) (CommitFailed b t pending recorded (recordedBy pending t recorded))) := by
  refine outline_session_call ?_
  intro h delivery r w' hin hexec
  cases r with
  | ok a => exact hok _ (hin.of_commit _ _ (server_of_commit_ok hexec))
  | error e =>
    rcases server_cases hexec with hserver | ⟨stmt', changes, hop, -⟩ | ⟨-, hserver⟩ | ⟨hop, -⟩
    · have hin' := hin.of_server (.ofSession b .commit)
        (Except.error e : Except PyError Unit).isOk hserver
      by_cases hnothing : b = false ∧ pending = []
      · obtain ⟨rfl, rfl⟩ := hnothing
        refine .inr ⟨?_, fun _ => .inr rfl⟩
        unfold recordedBy
        simpa [afterChanges, Server.applyAll] using hin'
      · have hcounts : countsAsFailed (.ofSession b .commit)
            (Except.error e : Except PyError Unit).isOk w' = true := by
          cases b with
          | true => rfl
          | false =>
            have hpending : w'.server.changes ((), false) = pending := hin'.pending
            have hsome : pending ≠ [] := fun hnil => hnothing ⟨rfl, hnil⟩
            simpa [countsAsFailed, WorkerOp.ofSession, Except.isOk, Except.toBool, hpending]
              using hsome
        exact .inl ⟨hin', fun hbroken =>
          hin'.recorded.symm.trans (not_broken_after hcounts hbroken)⟩
    · cases hop
    · have hin' := hin.of_commit (.ofSession b .commit)
        (Except.error e : Except PyError Unit).isOk hserver
      refine .inr ⟨hin', fun hbroken => ?_⟩
      cases b with
      | false => exact .inr rfl
      | true => exact .inl (hin'.recorded.symm.trans (not_broken_after rfl hbroken))
    · cases hop

/-- A commit of the inner session that adds no candidate, or comes after the first. -/
theorem CommitFailed.failed (hfailed : CommitFailed true t pending recorded recorded' h)
    (hlater : Later t (afterChanges pending t)) (hrecorded : recorded' = true) :
    Failed true t recorded h := by
  subst hrecorded
  rcases hfailed with ⟨hin, hbroken⟩ | ⟨hin, hbroken⟩
  · exact .of_in hin hbroken
  · refine ⟨_, [], true, hin, hlater, ?_⟩
    intro hunbroken
    rcases hbroken hunbroken with hfalse | hfalse <;> cases hfalse

/-- The end of a session. -/
theorem outline_rollbackIn {P Q : Batch → Prop}
    (hP : ∀ h, P h → ∃ t pending recorded, InSession b t pending recorded h ∧
      ∀ h', InSession b t [] recorded h' → (h'.broken = false → h.broken = false) → Q h') :
    Outline (sessionRely b) () P (send .rollback) (okOr (fun _ => Q) Q) := by
  refine outline_session_call ?_
  intro h delivery r w' hh hexec
  obtain ⟨t, pending, recorded, hin, hQ⟩ := hP h hh
  have hserver := server_of_rollback hexec
  have hcommitted : w'.server.committed = h.world.server.committed := by
    rw [hserver]
    rfl
  have hin' : InSession b t [] recorded (h.after (.ofSession b .rollback) r.isOk w') := by
    refine ⟨hcommitted.trans hin.committed, ?_, ?_, (recorded_after hcommitted).trans hin.recorded⟩
    · change w'.server.changes ((), b) = _
      rw [hserver]
      exact Function.update_self ..
    · change w'.server.changes ((), !b) = _
      rw [hserver]
      exact (Function.update_of_ne (by simp) _ _).trans hin.other
  have hbroken : (h.after (.ofSession b .rollback) r.isOk w').broken = false →
      h.broken = false := by
    intro hunbroken
    exact (Bool.or_eq_false_iff.mp hunbroken).1
  cases r with
  | ok a => exact hQ _ hin' hbroken
  | error e => exact hQ _ hin' hbroken

/-- A session ends as its body does, with nothing pending. -/
theorem outline_closed {P : Batch → Prop} {body : Action α} {Q R : Except PyError α → Batch → Prop}
    (hbody : Outline (sessionRely b) () P body Q)
    (hclose : ∀ r h, Q r h → ∃ t pending recorded, InSession b t pending recorded h ∧
      ∀ h', InSession b t [] recorded h' → (h'.broken = false → h.broken = false) → R r h') :
    Outline (sessionRely b) () P (inSession body) R := by
  refine hbody.attemptOr.bind (fun r => ?_) (fun e w _ hfalse => hfalse.elim)
  have hrollback : Outline (sessionRely b) () (Q r) (send .rollback).attempt
      (okOr (fun _ => R r) (fun _ => False)) := by
    refine (outline_rollbackIn (Q := R r) (hclose r)).attempt ?_
    intro reply h _ hR
    cases reply with
    | ok a => exact hR
    | error e => exact hR
  exact hrollback.bind (fun _ => Outline.ofExcept fun _ _ hR => hR)
    (fun e w _ hfalse => hfalse.elim)

/-- A session inside, from tables to tables. -/
theorem outline_inner {P : Batch → Prop} {body : Action α} {Q : α → Tables → Bool → Prop}
    (hbody : Outline (sessionRely true) () P body (okOr (fun a h => ∃ t' pending recorded',
      Q a t' recorded' ∧ InSession true t' pending recorded' h) (Failed true t recorded))) :
    Outline (sessionRely true) () P (inSession body) (okOr (fun a h => ∃ t' recorded',
      Q a t' recorded' ∧ InSession false t' [] recorded' h) (Failed false t recorded)) := by
  refine outline_closed hbody ?_
  intro r h hr
  cases r with
  | ok a =>
    obtain ⟨t', pending, recorded', hQ, hin⟩ := hr
    exact ⟨t', pending, recorded', hin, fun h' hin' _ => ⟨t', recorded', hQ, hin'.switch⟩⟩
  | error e =>
    obtain ⟨t', pending, recorded', hin, hlater, hnone⟩ := hr
    exact ⟨t', pending, recorded', hin, fun h' hin' hbroken =>
      ⟨t', [], recorded', hin'.switch, hlater, fun hunbroken => hnone (hbroken hunbroken)⟩⟩

/-- A commit after the first candidate. -/
theorem outline_commitRecorded (hlater : Later t (afterChanges pending t)) :
    Outline (sessionRely true) () (InSession true t pending true) (send .commit)
      (okOr (fun _ => InSession true (afterChanges pending t) [] true) (Failed true t true)) :=
  (outline_commitIn (fun _ hin => hin)).postOr (fun _ _ hin => hin)
    (fun _ hfailed => hfailed.failed hlater rfl)

/-- The flush of a row that is there. -/
theorem outline_flushIn {P Q E : Batch → Prop} {update : Action Nat}
    (hupdate : Outline (sessionRely b) () P update (okOr (fun n h => n = 1 ∧ Q h) E)) :
    Outline (sessionRely b) () P (flushUpdate update) (okOr (fun _ => Q) E) := by
  refine hupdate.bindOr (fun n => ?_)
  refine Outline.of_and ?_
  rintro rfl
  rw [if_pos rfl]
  exact Outline.pure (fun _ _ hQ => hQ)

/-- A call that reads something outside. -/
theorem outline_outside {outside : Outside Unit} (op : WorkerOp) (a : op.Reply)
    (hread : ∀ delivery w, workerExec outside () op delivery w = readOutside a delivery w)
    (hcounts : ∀ w', countsAsFailed op false w' = true) :
    Outline (batchRely outside) () (InSession b t [] recorded) (Prog.perform op)
      (okOr (fun a' h => a' = a ∧ InSession b t [] recorded h) (Failed b t recorded)) := by
  refine Outline.perform (fun _ => stable_of_subsingleton _) ?_
  intro h delivery r h' _ hin _ hexec
  obtain ⟨⟨r', w'⟩, hexec', heq⟩ := Option.map_eq_some_iff.mp hexec
  cases heq
  rw [hread] at hexec'
  refine ⟨trivial, trivial, ?_⟩
  cases delivery with
  | arrives =>
    cases hexec'
    exact ⟨rfl, hin.of_server op _ rfl⟩
  | lost e | late e =>
    cases hexec'
    have hin' := hin.of_server op (Except.error e : Except PyError op.Reply).isOk rfl
    exact .of_in hin' fun hbroken => hin'.recorded.symm.trans (not_broken_after (hcounts _) hbroken)

end

end HotAirBalloon.Memory
