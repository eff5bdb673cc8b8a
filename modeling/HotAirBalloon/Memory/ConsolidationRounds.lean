import HotAirBalloon.Memory.ConsolidationRuns

/-!
# Rounds of the consolidation worker

What the round of a conversation leaves in the tables: a candidate for each of its facts, and the
records of those that are accepted. A round that fails leaves later tables.
-/

namespace HotAirBalloon.Memory

open Python Library

/-! ## Tables that grow -/

/-- Records get turns of a conversation at most. -/
structure Lengthened (sourceTurnIds : List Uuid) (t t' : Tables) : Prop where
  kept : ∀ record ∈ t.memories, ∃ record' ∈ t'.memories, Grown record record'
  lineage : ∀ record' ∈ t'.memories, ∀ id ∈ record'.sourceTurnIds,
    id ∈ sourceTurnIds ∨ ∃ record ∈ t.memories, id ∈ record.sourceTurnIds

/-- Some facts of a conversation have been recorded, and promoted where they were accepted. -/
structure Advanced (worker : ConsolidationWorker) (row : AssistantConversationRecord)
    (sourceTurnIds : List Uuid) (facts : List ExtractedFact) (t t' : Tables) : Prop where
  conversations : t'.conversations = t.conversations
  turns : t'.turns = t.turns
  candidates : ∃ added,
    List.Forall₂ (CandidateOf worker row.ownerUserId sourceTurnIds t') facts added ∧
    (∀ candidate ∈ added, candidate.conversationId = row.id) ∧
    t'.candidates.rows = t.candidates.rows ++ added
  memories : Lengthened sourceTurnIds t t'

section

variable {worker : ConsolidationWorker} {row : AssistantConversationRecord}
  {sourceTurnIds : List Uuid} {facts facts' : List ExtractedFact} {t t' t'' : Tables}

theorem Lengthened.of_eq (h : t'.memories = t.memories) : Lengthened sourceTurnIds t t' where
  kept record hrecord := ⟨record, by rwa [h], .refl record⟩
  lineage record hrecord id hid := .inr ⟨record, by rwa [← h], hid⟩

theorem Lengthened.trans (h : Lengthened sourceTurnIds t t')
    (h' : Lengthened sourceTurnIds t' t'') : Lengthened sourceTurnIds t t'' where
  kept record hrecord := by
    obtain ⟨record', hrecord', hgrown⟩ := h.kept record hrecord
    obtain ⟨record'', hrecord'', hgrown'⟩ := h'.kept record' hrecord'
    exact ⟨record'', hrecord'', hgrown.trans hgrown'⟩
  lineage record hrecord id hid := by
    rcases h'.lineage record hrecord id hid with hown | ⟨record', hrecord', hid'⟩
    · exact .inl hown
    · exact h.lineage record' hrecord' id hid'

/-- A candidate stays the candidate of its fact. -/
theorem CandidateOf.mono {ownerUserId : Uuid} {sources : List Uuid} {fact : ExtractedFact}
    {candidate : AssistantMemoryCandidate}
    (h : CandidateOf worker ownerUserId sources t fact candidate)
    (hkept : ∀ record ∈ t.memories, ∃ record' ∈ t'.memories, Grown record record') :
    CandidateOf worker ownerUserId sources t' fact candidate where
  fact_eq := h.fact_eq
  owner := h.owner
  decided := h.decided
  promoted haccepted := by
    obtain ⟨record, hrecord, hid, hholds⟩ := h.promoted haccepted
    obtain ⟨record', hrecord', hgrown⟩ := hkept record hrecord
    exact ⟨record', hrecord', by rw [hid, hgrown.id_eq], hgrown.holds hholds⟩

theorem Advanced.nil : Advanced worker row sourceTurnIds [] t t where
  conversations := rfl
  turns := rfl
  candidates := ⟨[], .nil, fun _ h => absurd h List.not_mem_nil, (List.append_nil _).symm⟩
  memories := .of_eq rfl

theorem Advanced.append (h : Advanced worker row sourceTurnIds facts t t')
    (h' : Advanced worker row sourceTurnIds facts' t' t'') :
    Advanced worker row sourceTurnIds (facts ++ facts') t t'' where
  conversations := h'.conversations.trans h.conversations
  turns := h'.turns.trans h.turns
  candidates := by
    obtain ⟨added, hfacts, hadded, hrows⟩ := h.candidates
    obtain ⟨added', hfacts', hadded', hrows'⟩ := h'.candidates
    refine ⟨added ++ added', List.rel_append ?_ hfacts', ?_, ?_⟩
    · exact hfacts.imp (fun _ _ hcandidate => hcandidate.mono h'.memories.kept)
    · intro candidate hcandidate
      rcases List.mem_append.mp hcandidate with hold | hnew
      · exact hadded candidate hold
      · exact hadded' candidate hnew
    · rw [hrows', hrows, List.append_assoc]
  memories := h.memories.trans h'.memories

theorem Advanced.later (h : Advanced worker row sourceTurnIds facts t t') : Later t t' where
  conversations := h.conversations
  turns := h.turns
  candidates candidate hcandidate _ := by
    obtain ⟨added, -, -, hrows⟩ := h.candidates
    rw [Table.mem_def, hrows]
    exact List.mem_append_left _ hcandidate
  memories := h.memories.kept

end

/-! ## The programs of a fact -/

/-- A candidate as it is recorded, before its fact is promoted. -/
structure NewCandidate (conversationId ownerUserId : Uuid) (fact : ExtractedFact)
    (decision : String) (candidate : AssistantMemoryCandidate) : Prop where
  conversation : candidate.conversationId = conversationId
  owner : candidate.ownerUserId = ownerUserId
  fact_eq : candidate.fact = fact
  decision : candidate.decision = decision
  promoted : candidate.promotedMemoryRecordId = none

def Tables.withCandidate (t : Tables) (candidate : AssistantMemoryCandidate) : Tables :=
  { t with candidates := t.candidates.put candidate }

def AssistantMemoryCandidate.pointingTo (candidate : AssistantMemoryCandidate)
    (memoryRecordId : Uuid) : AssistantMemoryCandidate :=
  { candidate with promotedMemoryRecordId := some memoryRecordId }

/-- A fact is in the memory, under some id. -/
structure Promoted (repository : MemoryRecordRepository) (memory : MemoryRecordWrite) (id : Uuid)
    (t t' : Tables) : Prop where
  conversations : t'.conversations = t.conversations
  turns : t'.turns = t.turns
  candidates : t'.candidates = t.candidates
  memories : Lengthened memory.sourceTurnIds t t'
  record : ∃ record ∈ t'.memories, record.id = id ∧ Holds repository memory record

theorem Promoted.later {repository : MemoryRecordRepository}
    {memory : MemoryRecordWrite} {id : Uuid}
    {t t' : Tables} (h : Promoted repository memory id t t') : Later t t' where
  conversations := h.conversations
  turns := h.turns
  candidates candidate hcandidate _ := by rwa [h.candidates]
  memories := h.memories.kept

/-- A new candidate, or one that has got its record. -/
theorem Later.withCandidate {t : Tables} {candidate : AssistantMemoryCandidate}
    (hold : ∀ old ∈ t.candidates, old.id = candidate.id →
      old.decision = FactDecision.accepted.value ∧ old.promotedMemoryRecordId = none) :
    Later t (t.withCandidate candidate) where
  conversations := rfl
  turns := rfl
  candidates old hmem hready := by
    by_cases hid : old.id = candidate.id
    · obtain ⟨haccepted, hnone⟩ := hold old hmem hid
      exact absurd hnone (hready haccepted)
    · exact Table.mem_put.mpr (.inr ⟨hmem, hid⟩)
  memories record hrecord := ⟨record, hrecord, .refl record⟩

theorem Later.withNewCandidate {t : Tables} {candidate : AssistantMemoryCandidate}
    (hnew : t.candidates.find? candidate.id = none) : Later t (t.withCandidate candidate) := by
  refine Later.withCandidate (fun old hmem hid => ?_)
  exact absurd hid (Table.find?_eq_none_iff.mp hnew old hmem)

theorem outcome_insertCandidate {row : AssistantMemoryCandidate} {t : Tables} {n : Nat}
    {changes : List Change} (h : (Memory.insertCandidate row t).outcome = .ok (n, changes)) :
    changes = [.candidate (.put row)] ∧ t.candidates.find? row.id = none := by
  unfold insertCandidate at h
  dsimp only at h
  split at h
  · cases h
  · rename_i hnew
    cases changes_ite h
    exact ⟨rfl, Option.not_isSome_iff_eq_none.mp hnew⟩

section

variable {t : Tables} {recorded : Bool}

theorem outline_recordOutcome (repository : FactCandidateRepository)
    (conversationId ownerUserId : Uuid)
    (fact : ExtractedFact) (decision reason : String) (candidateId : Uuid) (now : DateTime) :
    Outline (sessionRely true) () (InSession true t [] recorded)
      (repository.recordOutcome conversationId ownerUserId fact decision reason candidateId now)
      (okOr (fun id h => ∃ t' recorded', (recorded' = true ∧ ∃ candidate,
        NewCandidate conversationId ownerUserId fact decision candidate ∧ candidate.id = id ∧
        t.candidates.find? id = none ∧
        t' = t.withCandidate candidate) ∧
        InSession false t' [] recorded' h) (Failed false t recorded)) := by
  refine outline_inner (Q := fun id t' recorded' => recorded' = true ∧ ∃ candidate,
    NewCandidate conversationId ownerUserId fact decision candidate ∧ candidate.id = id ∧
      t.candidates.find? id = none ∧ t' = t.withCandidate candidate) ?_
  refine (outline_statementIn (Q := fun _ h => ∃ candidate, candidate.id = candidateId ∧
    NewCandidate conversationId ownerUserId fact decision candidate ∧
    t.candidates.find? candidate.id = none ∧
      InSession true t [.candidate (.put candidate)] recorded h) ?_).bindOr (fun _ => ?_)
  · intro locked n changes h houtcome hin
    obtain ⟨rfl, hnew⟩ := outcome_insertCandidate houtcome
    exact ⟨_, rfl, ⟨rfl, rfl, rfl, rfl, rfl⟩, hnew, hin⟩
  refine Outline.of_exists (fun candidate => Outline.of_and ?_)
  rintro rfl
  refine Outline.of_and (fun hcandidate => Outline.of_and (fun hnew => ?_))
  have hrecorded : recordedBy [.candidate (.put candidate)] t recorded = true := by
    have hrows : (t.candidates.put candidate).rows = t.candidates.rows ++ [candidate] :=
      Table.rows_put_of_find?_eq_none hnew
    have hchanged : (t.candidates.put candidate).rows ≠ t.candidates.rows := by
      rw [hrows]
      simp
    unfold recordedBy
    exact (congrArg (recorded || ·) (decide_eq_true hchanged)).trans (Bool.or_true _)
  refine Outline.bind (outline_commitIn (Q := fun h => InSession true (t.withCandidate candidate) []
    true h) ?_) (fun _ => ?_) ?_
  · intro h hin
    rwa [hrecorded] at hin
  · refine Outline.pure ?_
    intro h _ hin
    exact ⟨_, [], true, ⟨rfl, candidate, hcandidate, rfl, hnew, rfl⟩, hin⟩
  · exact fun e h _ hfailed => hfailed.failed (.withNewCandidate hnew) hrecorded

theorem outline_markPromoted {candidate : AssistantMemoryCandidate}
    (hfind : t.candidates.find? candidate.id = some candidate)
    (haccepted : candidate.decision = FactDecision.accepted.value)
    (hpromoted : candidate.promotedMemoryRecordId = none) (memoryRecordId : Uuid) :
    Outline (sessionRely true) () (InSession true t [] true)
      (FactCandidateRepository.markPromoted candidate.id memoryRecordId)
      (okOr (fun _ h => ∃ t' recorded', (recorded' = true ∧ t' =
          t.withCandidate (candidate.pointingTo memoryRecordId)) ∧
        InSession false t' [] recorded' h) (Failed false t true)) := by
  refine outline_inner (Q := fun _ t' recorded' => recorded' = true ∧ t' =
    t.withCandidate (candidate.pointingTo memoryRecordId)) ?_
  refine (outline_statementIn (Q := fun found h => found = some candidate ∧
    InSession true t [] true h) ?_).bindOr (fun found => ?_)
  · intro locked found changes h houtcome hin
    cases houtcome
    exact ⟨hfind, hin⟩
  refine Outline.of_and ?_
  rintro rfl
  dsimp only
  rw [hpromoted, if_neg (by simp)]
  refine Outline.bindOr (outline_flushIn (outline_statementIn (Q := fun n h => n = 1 ∧
    InSession true t [.candidate (.put (candidate.pointingTo memoryRecordId))] true h) ?_))
      (fun _ => ?_)
  · intro locked n changes h houtcome hin
    change (setPromotedRecord candidate.id memoryRecordId t).outcome = _ at houtcome
    unfold setPromotedRecord at houtcome
    rw [hfind] at houtcome
    cases changes_ite houtcome
    exact ⟨rfl, hin⟩
  · have hlater :
        Later t (afterChanges [.candidate (.put (candidate.pointingTo memoryRecordId))] t) := by
      refine Later.withCandidate (fun old hmem hid => ?_)
      rw [Table.eq_of_key_eq hmem (Table.find?_eq_some_iff.mp hfind).1 hid]
      exact ⟨haccepted, hpromoted⟩
    exact (outline_commitRecorded hlater).postOr (fun _ _ hin => ⟨_, [], true, ⟨rfl, rfl⟩, hin⟩)
      (fun _ hfailed => hfailed)

/-! ### Promotion -/

variable {repository : MemoryRecordRepository} {memory : MemoryRecordWrite}

/-- What is in the memory after a new record, or an old one with more turns, was put there. -/
theorem Promoted.of_put {record : AssistantMemoryRecord} (hholds : Holds repository memory record)
    (hold : ∀ old ∈ t.memories, old.id = record.id → Grown old record)
    (hlineage : ∀ id ∈ record.sourceTurnIds, id ∈ memory.sourceTurnIds ∨
      ∃ old ∈ t.memories, id ∈ old.sourceTurnIds) :
    Promoted repository memory record.id t (afterChanges [.memory (.put record)] t) where
  conversations := rfl
  turns := rfl
  candidates := rfl
  memories := by
    refine ⟨?_, ?_⟩
    · intro old hmem
      by_cases hid : old.id = record.id
      · exact ⟨record, Table.mem_put.mpr (.inl rfl), hold old hmem hid⟩
      · exact ⟨old, Table.mem_put.mpr (.inr ⟨hmem, hid⟩), .refl old⟩
    · intro record' hrecord' id hid
      rcases Table.mem_put.mp hrecord' with rfl | ⟨hmem, -⟩
      · exact hlineage id hid
      · exact .inr ⟨record', hmem, hid⟩
  record := ⟨record, Table.mem_put.mpr (.inl rfl), rfl, hholds⟩

/-- What the programs of a promotion promise. -/
def PromotedIn (repository : MemoryRecordRepository) (memory : MemoryRecordWrite) (t : Tables)
    (id : Uuid) (h : Batch) : Prop :=
  ∃ t' pending recorded', (recorded' = true ∧ Promoted repository memory id t t') ∧
    InSession true t' pending recorded' h

/-- After the insert of a record has failed: it is there or not. -/
def InsertFailed (repository : MemoryRecordRepository) (memory : MemoryRecordWrite) (t : Tables)
    (row : AssistantMemoryRecord) (h : Batch) : Prop :=
  ∃ t',
    (t' = t ∨ (t' = afterChanges [.memory (.put row)] t ∧ Promoted repository memory row.id t t')) ∧
    ∃ pending, InSession true t' pending true h ∧ h.broken = true

theorem InsertFailed.failed {row : AssistantMemoryRecord} {h : Batch}
    (hfailed : InsertFailed repository memory t row h) : Failed true t true h := by
  obtain ⟨t', htables, pending, hin, hbroken⟩ := hfailed
  refine ⟨t', pending, true, hin, ?_, fun hunbroken => ?_⟩
  · rcases htables with rfl | ⟨-, hpromoted⟩
    · exact .refl _
    · exact hpromoted.later
  · cases hbroken.symm.trans hunbroken

/-- The insert of a record and its commit. -/
theorem outline_insertMemory {row : AssistantMemoryRecord} (hholds : Holds repository memory row)
    (hsources : row.sourceTurnIds = memory.sourceTurnIds) :
    Outline (sessionRely true) () (InSession true t [] true) (do
        let _ ← sql (.insertMemory row)
        send .commit)
      (okOr (fun _ =>
        PromotedIn repository memory t row.id) (InsertFailed repository memory t row)) := by
  have hbroken : ∀ {h : Batch}, (h.broken = false → true = false) → h.broken = true := by
    intro h hnone
    by_contra hunbroken
    cases hnone (by simpa using hunbroken)
  refine Outline.bindOr (Outline.postOr (Outline.pre (outline_statementAfter false (Q := fun _ h =>
      Promoted repository memory row.id t (afterChanges [.memory (.put row)] t) ∧
        InSession true t [.memory (.put row)] true h) ?_)
      (fun _ _ hin => ⟨hin, fun hfalse => Bool.noConfusion hfalse⟩)) (fun _ _ hQ => hQ) ?_)
        (fun _ => ?_)
  · intro locked n changes h houtcome hin _
    obtain ⟨rfl, hid, -, -⟩ := outcome_insertMemory houtcome
    refine ⟨Promoted.of_put hholds (fun old hold heq => absurd heq (hid old hold)) ?_, hin⟩
    intro id hmem
    exact .inl (by rwa [← hsources])
  · rintro h ⟨pending, hin, -, hnone⟩
    exact ⟨t, .inl rfl, pending, hin, hbroken hnone⟩
  refine Outline.of_and (fun hpromoted => ?_)
  refine (outline_commitIn (fun _ hin => hin)).postOr ?_ ?_
  · exact fun _ h hin => ⟨_, [], true, ⟨rfl, hpromoted⟩, hin⟩
  · rintro h (⟨hin, hnone⟩ | ⟨hin, hnone⟩)
    · exact ⟨t, .inl rfl, _, hin, hbroken hnone⟩
    · refine ⟨_, .inr ⟨rfl, hpromoted⟩, [], hin, hbroken fun hunbroken => ?_⟩
      rcases hnone hunbroken with hfalse | hfalse <;> cases hfalse

/-- What is found after a failed insert is the inserted record, since there was none before. -/
theorem outline_insertFact (memory : MemoryRecordWrite) {row : AssistantMemoryRecord}
    {ownerUserId : Uuid} {contentSha256 : String}
    (hnone : ∀ old ∈ t.memories, isUserFact ownerUserId memory.kind contentSha256 old = false)
    (hholds : Holds repository memory row) (hsources : row.sourceTurnIds = memory.sourceTurnIds) :
    Outline (sessionRely true) () (InSession true t [] true)
      (MemoryRecordRepository.insertUserFact row
        (sql (.selectUserFactForUpdate ownerUserId memory.kind contentSha256)))
      (okOr (fun r => PromotedIn repository memory t r.1) (Failed true t true)) := by
  unfold MemoryRecordRepository.insertUserFact
  refine (outline_insertMemory hholds hsources).attemptOr.bind (fun committed => ?_)
    (fun _ _ _ hfalse => hfalse.elim)
  cases committed with
  | ok a => exact Outline.pure (fun _ _ hr => hr)
  | error e =>
    dsimp only
    split
    · have hrollback : Outline (sessionRely true) () (InsertFailed repository memory t row)
          (send .rollback)
            (okOr (fun _ h => ∃ t', (t' = t ∨ (t' = afterChanges [.memory (.put row)] t ∧
            Promoted repository memory row.id t t')) ∧ InSession true t' [] true h ∧
              h.broken = true)
            (Failed true t true)) := by
        refine (outline_rollbackIn (Q := fun h => ∃ t', (t' = t ∨ (t' = afterChanges
          [.memory (.put row)] t ∧ Promoted repository memory row.id t t')) ∧
            InSession true t' [] true h ∧ h.broken = true) ?_).postOr (fun _ _ hQ => hQ) ?_
        · rintro h ⟨t', htables, pending, hin, hbroken⟩
          refine ⟨t', pending, true, hin, fun h' hin' hunbroken => ⟨t', htables, hin', ?_⟩⟩
          by_contra hfalse
          cases hbroken.symm.trans (hunbroken (by simpa using hfalse))
        · rintro h ⟨t', htables, hin, hbroken⟩
          exact InsertFailed.failed ⟨t', htables, [], hin, hbroken⟩
      refine hrollback.bindOr (fun _ =>
        Outline.of_exists (fun t' => Outline.of_and (fun htables => ?_)))
      refine Outline.bindOr
        (Outline.postOr (Outline.pre (outline_statementAfter true (Q := fun found h =>
          (∀ existing, found = some existing → existing ∈ t'.memories ∧
            isUserFact ownerUserId memory.kind contentSha256 existing = true) ∧
          InSession true t' [] true h ∧ h.broken = true) ?_) (fun _ _ hin =>
            ⟨hin.1, fun _ => hin.2⟩))
          (fun _ _ hQ => hQ) ?_) (fun found => Outline.of_and (fun hfound => ?_))
      · intro locked found changes h houtcome hin hbroken
        cases houtcome
        exact ⟨fun existing hhead => List.mem_filter.mp (List.mem_of_mem_head? hhead), hin,
          hbroken rfl⟩
      · rintro h ⟨pending, hin, hbroken, -⟩
        exact InsertFailed.failed ⟨t', htables, pending, hin, hbroken rfl⟩
      cases found with
      | none =>
        exact Outline.raise (fun h _ hin => InsertFailed.failed ⟨t', htables, [], hin.1, hin.2⟩)
      | some existing =>
        obtain ⟨hmem, hfact⟩ := hfound existing rfl
        refine Outline.pure (fun h _ hin => ?_)
        rcases htables with rfl | ⟨rfl, hpromoted⟩
        · rw [hnone existing hmem] at hfact
          cases hfact
        · rcases Table.mem_put.mp hmem with rfl | ⟨hold, -⟩
          · exact ⟨_, [], true, ⟨rfl, hpromoted⟩, hin.1⟩
          · rw [hnone existing hold] at hfact
            cases hfact
    · exact Outline.raise (fun _ _ hfailed => hfailed.failed)

/-- The merge of the turns into a record that is there. -/
theorem outline_mergeTurns (memory : MemoryRecordWrite) {existing : AssistantMemoryRecord}
    (hexisting : existing ∈ t.memories)
    (hholds : Holds repository { memory with sourceTurnIds := [] } existing) :
    Outline (sessionRely true) () (InSession true t [] true) (do
        MemoryRecordRepository.flushSourceTurnIds existing
          (existing.sourceTurnIds ++ memory.sourceTurnIds).eraseDups
        send .commit
        return (existing.id, false))
      (okOr (fun r => PromotedIn repository memory t r.1) (Failed true t true)) := by
  have hmem : ∀ {id}, id ∈ (existing.sourceTurnIds ++ memory.sourceTurnIds).eraseDups ↔
      id ∈ existing.sourceTurnIds ∨ id ∈ memory.sourceTurnIds := by
    intro id
    rw [List.mem_eraseDups, List.mem_append]
  have hgrown : Grown existing { existing with
      sourceTurnIds := (existing.sourceTurnIds ++ memory.sourceTurnIds).eraseDups } :=
    ⟨_, rfl, fun id hid => hmem.mpr (.inl hid)⟩
  have hheld : Holds repository memory { existing with
      sourceTurnIds := (existing.sourceTurnIds ++ memory.sourceTurnIds).eraseDups } :=
    ⟨hholds.live, hholds.owner, hholds.kind, hholds.hash, fun id hid => hmem.mpr (.inr hid)⟩
  have hput := Promoted.of_put (t := t) hheld
    (fun old hold hid => by rwa [Table.eq_of_key_eq hold hexisting hid]) (fun id hid => by
      rcases hmem.mp hid with hold | hnew
      · exact .inr ⟨existing, hexisting, hold⟩
      · exact .inl hnew)
  have hflush : Outline (sessionRely true) () (InSession true t [] true)
      (MemoryRecordRepository.flushSourceTurnIds existing
        (existing.sourceTurnIds ++ memory.sourceTurnIds).eraseDups)
      (okOr (fun _ h =>
        ∃ pending, Promoted repository memory existing.id t (afterChanges pending t) ∧
        InSession true t pending true h) (Failed true t true)) := by
    unfold MemoryRecordRepository.flushSourceTurnIds
    split
    · rename_i hsame
      refine Outline.pure (fun h _ hin => ⟨[], ?_, hin⟩)
      refine ⟨rfl, rfl, rfl, .of_eq rfl, existing, hexisting, rfl, ?_⟩
      rwa [← hsame] at hheld
    · refine outline_flushIn (outline_statementIn ?_)
      intro locked n changes h houtcome hin
      have hfind : t.memories.find? existing.id = some existing :=
        Table.find?_eq_some_iff.mpr ⟨hexisting, rfl⟩
      change (updateMemory existing.id _ t).outcome = _ at houtcome
      unfold updateMemory at houtcome
      rw [hfind] at houtcome
      cases houtcome
      exact ⟨rfl, _, hput, hin⟩
  refine hflush.bindOr (fun _ =>
    Outline.of_exists (fun pending => Outline.of_and (fun hpromoted => ?_)))
  refine Outline.bindOr (outline_commitRecorded hpromoted.later) (fun _ => ?_)
  exact Outline.pure (fun h _ hin => ⟨_, [], true, ⟨rfl, hpromoted⟩, hin⟩)

theorem outline_promote (repository : MemoryRecordRepository) (fact : ExtractedFact)
    (ownerUserId : Uuid) (requiredPermissions : List String) (sourceTurnIds : List Uuid)
    (expiresAtUtc : Option DateTime) (memoryId : Uuid) (now : DateTime) :
    Outline (sessionRely true) () (InSession true t [] true)
      (promote repository fact ownerUserId requiredPermissions sourceTurnIds expiresAtUtc
        memoryId now) (okOr (fun r h => ∃ t' recorded', (recorded' = true ∧
        Promoted repository (factWrite fact ownerUserId sourceTurnIds) r.1 t t') ∧
        InSession false t' [] recorded' h) (Failed false t true)) := by
  unfold promote MemoryRecordRepository.recordOrGetUserFact
  dsimp only
  rw [if_neg (by simp)]
  refine outline_inner (Q := fun (r : Uuid × Bool) t' recorded' => recorded' = true ∧
    Promoted repository (factWrite fact ownerUserId sourceTurnIds) r.1 t t') ?_
  refine (outline_statementIn (Q := fun found h =>
    found = (t.memories.rows.filter (isUserFact ownerUserId
    "conversation_summary" (repository.contentHash fact.statement))).head? ∧
      InSession true t [] true h) ?_).bindOr (fun found => ?_)
  · intro locked found changes h houtcome hin
    cases houtcome
    exact ⟨rfl, hin⟩
  refine Outline.of_and (fun hfound => ?_)
  cases found with
  | none =>
    have hnone := List.head?_eq_none_iff.mp hfound.symm
    rw [List.filter_eq_nil_iff] at hnone
    refine outline_insertFact (factWrite fact ownerUserId sourceTurnIds) ?_
      ⟨rfl, rfl, rfl, rfl, List.Subset.refl _⟩ rfl
    intro old hold
    exact (Bool.not_eq_true _).mp (hnone old hold)
  | some existing =>
    obtain ⟨hexisting, hfact⟩ := List.mem_filter.mp (List.mem_of_mem_head? hfound.symm)
    obtain ⟨howner, hkind, hhash, hlive⟩ := isUserFact_iff.mp hfact
    exact outline_mergeTurns (factWrite fact ownerUserId sourceTurnIds) hexisting
      ⟨hlive, howner, hkind, hhash, List.nil_subset _⟩

/-! ### A fact -/

variable {outside : Outside Unit} {worker : ConsolidationWorker}
  {row : AssistantConversationRecord} {sourceTurnIds : List Uuid} {fact : ExtractedFact}
  {candidate : AssistantMemoryCandidate} {now : DateTime} {evaluation : FactEvaluation}

theorem decision_of_value {decision : FactDecision}
    (h : decision.value = FactDecision.accepted.value) : decision = .accepted := by
  cases decision with
  | accepted => rfl
  | rejected | duplicate => exact absurd h (by decide)

/-- A candidate that is not accepted is recorded and that is all. -/
theorem NewCandidate.advanced_of_rejected
    (h : NewCandidate row.id row.ownerUserId fact evaluation.decision.value candidate)
    (hevaluation : worker.factPolicy.evaluate fact sourceTurnIds now = evaluation)
    (hfind : t.candidates.find? candidate.id = none) (hrejected : evaluation.decision ≠ .accepted) :
    Advanced worker row sourceTurnIds [fact] t (t.withCandidate candidate) where
  conversations := rfl
  turns := rfl
  candidates := by
    refine ⟨[candidate], .cons ⟨h.fact_eq, h.owner, ⟨now, hevaluation ▸ h.decision⟩, ?_⟩ .nil, ?_,
      Table.rows_put_of_find?_eq_none hfind⟩
    · intro haccepted
      exact absurd (decision_of_value (h.decision.symm.trans haccepted)) hrejected
    · intro other hother
      rw [List.mem_singleton.mp hother]
      exact h.conversation
  memories := .of_eq rfl

/-- A candidate that is accepted points to the record of its fact. -/
theorem NewCandidate.advanced_of_promoted {t' : Tables} {id : Uuid}
    (h : NewCandidate row.id row.ownerUserId fact evaluation.decision.value candidate)
    (hevaluation : worker.factPolicy.evaluate fact sourceTurnIds now = evaluation)
    (hfind : t.candidates.find? candidate.id = none)
    (hpromoted : Promoted worker.memoryStore (factWrite fact row.ownerUserId sourceTurnIds) id
      (t.withCandidate candidate) t') :
    Advanced worker row sourceTurnIds [fact] t (t'.withCandidate (candidate.pointingTo id)) where
  conversations := hpromoted.conversations
  turns := hpromoted.turns
  candidates := by
    refine ⟨[candidate.pointingTo id],
      .cons ⟨h.fact_eq, h.owner, ⟨now, hevaluation ▸ h.decision⟩, ?_⟩ .nil, ?_, ?_⟩
    · intro _
      obtain ⟨record, hrecord, rfl, hholds⟩ := hpromoted.record
      exact ⟨record, hrecord, rfl, hholds⟩
    · intro other hother
      rw [List.mem_singleton.mp hother]
      exact h.conversation
    · have hput : (t'.withCandidate (candidate.pointingTo id)).candidates =
          t.candidates.put (candidate.pointingTo id) := by
        have hcandidates : t'.candidates = t.candidates.put candidate := hpromoted.candidates
        refine (congrArg (Table.put · (candidate.pointingTo id)) hcandidates).trans ?_
        exact Table.put_put rfl
      rw [hput]
      exact Table.rows_put_of_find?_eq_none hfind
  memories := ⟨hpromoted.memories.kept, hpromoted.memories.lineage⟩

/-- Some facts of a conversation have been recorded and promoted, and if no candidate has been
committed in the run, there was none to record. -/
def AdvancedTo (worker : ConsolidationWorker) (row : AssistantConversationRecord)
    (sourceTurnIds : List Uuid) (facts : List ExtractedFact) (t : Tables) (recorded : Bool)
    (h : Batch) : Prop :=
  ∃ t' recorded', ((recorded' = false → recorded = false ∧ t' = t) ∧
    Advanced worker row sourceTurnIds facts t t') ∧ InSession false t' [] recorded' h

theorem outline_consolidateFact (draws : ConsolidationDraws) (row : AssistantConversationRecord)
    (sourceTurnIds : List Uuid) (permissions : List String) (fact : ExtractedFact) (index : Nat) :
    Outline (batchRely outside) () (InSession false t [] recorded)
      (worker.consolidateFact draws row sourceTurnIds permissions fact index)
      (okOr (fun _ => AdvancedTo worker row sourceTurnIds [fact] t recorded)
        (Failed false t recorded)) := by
  unfold ConsolidationWorker.consolidateFact
  dsimp only
  generalize hevaluation :
    worker.factPolicy.evaluate fact sourceTurnIds (draws.evaluatedAt row.id) = evaluation
  refine Outline.bindOr (Outline.pre (outline_nested (outline_recordOutcome _ _ _ _ _ _ _ _))
    (fun _ _ hin => hin.switch)) (fun candidateId => ?_)
  refine Outline.of_exists (fun t₁ => Outline.of_exists (fun recorded₁ => Outline.of_and ?_))
  rintro ⟨rfl, candidate, hcandidate, rfl, hfind, rfl⟩
  split
  · rename_i hrejected
    refine Outline.pure (fun h _ hin => ⟨_, true, ⟨fun hfalse => Bool.noConfusion hfalse, ?_⟩, hin⟩)
    exact hcandidate.advanced_of_rejected hevaluation hfind hrejected
  rename_i hkept
  have haccepted : candidate.decision = FactDecision.accepted.value := by
    rw [hcandidate.decision, not_not.mp hkept]
  refine Outline.postOr (Q := fun _ => AdvancedTo worker row sourceTurnIds [fact] t recorded)
    (E := Failed false (t.withCandidate candidate) true) ?_ (fun _ _ hQ => hQ)
    (fun _ hfailed =>
      hfailed.after (.withNewCandidate hfind) (fun hfalse => Bool.noConfusion hfalse))
  refine Outline.bindOr (Outline.pre (outline_nested (outline_promote _ _ _ _ _ _ _ _))
    (fun _ _ hin => hin.switch)) ?_
  rintro ⟨memoryRecordId, created⟩
  refine Outline.of_exists (fun t₂ => Outline.of_exists (fun recorded₂ => Outline.of_and ?_))
  rintro ⟨rfl, hpromoted⟩
  have hfound : t₂.candidates.find? candidate.id = some candidate := by
    have hcandidates : t₂.candidates = t.candidates.put candidate := hpromoted.candidates
    rw [hcandidates, Table.find?_put, if_pos rfl]
  refine Outline.postOr (Outline.pre (outline_nested
    (outline_markPromoted hfound haccepted hcandidate.promoted memoryRecordId))
    (fun _ _ hin => hin.switch)) ?_ (fun _ hfailed => hfailed.after hpromoted.later
      (fun hfalse => Bool.noConfusion hfalse))
  rintro _ h ⟨t₃, recorded₃, ⟨rfl, rfl⟩, hin⟩
  refine ⟨_, true, ⟨fun hfalse => Bool.noConfusion hfalse, ?_⟩, hin⟩
  exact hcandidate.advanced_of_promoted hevaluation hfind hpromoted

/-! ### A conversation -/

/-- A loop over facts, each of which is recorded and promoted. -/
theorem outline_facts {body : ExtractedFact × Nat → WorkerAction Unit}
    (hbody : ∀ item t recorded,
      Outline (batchRely outside) () (InSession false t [] recorded) (body item)
      (okOr (fun _ => AdvancedTo worker row sourceTurnIds [item.1] t recorded)
        (Failed false t recorded)))
    (items : List (ExtractedFact × Nat)) (t : Tables) (recorded : Bool) :
    Outline (batchRely outside) () (InSession false t [] recorded) (Prog.forEach items body)
      (okOr (fun _ => AdvancedTo worker row sourceTurnIds (items.map Prod.fst) t recorded)
        (Failed false t recorded)) := by
  induction items generalizing t recorded with
  | nil => exact Outline.pure (fun h _ hin => ⟨t, recorded, ⟨fun hnone => ⟨hnone, rfl⟩, .nil⟩, hin⟩)
  | cons item rest ih =>
    refine Outline.bindOr (hbody item t recorded) (fun _ => ?_)
    refine Outline.of_exists (fun t₁ => Outline.of_exists (fun recorded₁ => Outline.of_and ?_))
    rintro ⟨hnone, hitem⟩
    refine (ih t₁ recorded₁).postOr ?_ (fun _ hfailed => hfailed.after hitem.later hnone)
    rintro _ h ⟨t₂, recorded₂, ⟨hnone', hrest⟩, hin⟩
    refine ⟨t₂, recorded₂, ⟨?_, hitem.append hrest⟩, hin⟩
    intro hrecorded
    obtain ⟨hrecorded₁, heq⟩ := hnone' hrecorded
    exact ⟨(hnone hrecorded₁).1, heq.trans (hnone hrecorded₁).2⟩

theorem outline_consolidateConversation (draws : ConsolidationDraws)
    (row : AssistantConversationRecord) :
    Outline (batchRely outside) () (InSession false t [] recorded)
      (worker.consolidateConversation draws row)
      (okOr (fun _ =>
        AdvancedTo worker row (sourceTurns row.id t) (extractedFacts outside row.id t) t
        recorded) (Failed false t recorded)) := by
  unfold ConsolidationWorker.consolidateConversation
  refine Outline.bindOr (outline_main (outline_statementIn (Q := fun turns h =>
    turns = conversationTurns row.id t ∧ InSession false t [] recorded h) ?_)) (fun turns => ?_)
  · intro locked turns changes h houtcome hin
    cases houtcome
    exact ⟨rfl, hin⟩
  refine Outline.of_and ?_
  rintro rfl
  dsimp only
  split
  · rename_i hfew
    have hnone : extractedFacts outside row.id t = [] := if_pos hfew
    rw [hnone]
    exact Outline.pure (fun h _ hin => ⟨t, recorded, ⟨fun hnone => ⟨hnone, rfl⟩, .nil⟩, hin⟩)
  rename_i hfew
  refine Outline.bindOr (outline_outside (.extract _) _ (fun _ _ => rfl) (fun _ => rfl))
    (fun facts => Outline.of_and ?_)
  intro hfacts
  have hextracted : extractedFacts outside row.id t = facts := (if_neg hfew).trans hfacts.symm
  refine Outline.bindOr (Q := fun _ => InSession false t [] recorded) ?_ (fun permissions => ?_)
  · refine Outline.bindOr (outline_outside (.selectApprovedTools row.id) _ (fun _ _ => rfl)
      (fun _ => rfl)) (fun toolNames => Outline.of_and (fun _ => ?_))
    exact Outline.pure (fun _ _ hin => hin)
  have hfact : ∀ (item : ExtractedFact × Nat) t₁ recorded₁, Outline (batchRely outside) ()
      (InSession false t₁ [] recorded₁)
      (worker.consolidateFact draws row (sourceTurns row.id t) permissions item.1 item.2)
      (okOr (fun _ => AdvancedTo worker row (sourceTurns row.id t) [item.1] t₁ recorded₁)
        (Failed false t₁ recorded₁)) := fun item _ _ =>
    outline_consolidateFact draws row (sourceTurns row.id t) permissions item.1 item.2
  have hloop := outline_facts hfact facts.zipIdx t recorded
  rw [List.zipIdx_map_fst] at hloop
  rw [hextracted]
  exact hloop

end

end HotAirBalloon.Memory
