import HotAirBalloon.Memory.Alone

/-!
# Erasure of a user

What `erase_user_memory` does when it runs alone, as one equation: which rows and vectors are left,
or, when a fact candidate still refers to one of the records, that the vectors are gone and the
rows are not. Erasure is complete exactly when the user has no fact candidate and no record that was
soft-deleted before; whatever belongs to others is unchanged.
-/

namespace HotAirBalloon.Memory

open Python Library

variable {ι : Type} [DecidableEq ι] {i : ι} {t v : Tables} {x : VectorIndex} {w : World ι}

/-! ## Tables after the statements -/

/-- The kinds of changes that a list has none of. -/
theorem after_eq {changes : List Change} :
    t.after changes = {
      conversations := t.conversations.applyEdits (changes.filterMap Change.conversation?)
      turns := t.turns.applyEdits (changes.filterMap Change.turn?)
      evidence := t.evidence.applyEdits (changes.filterMap Change.evidence?)
      memories := t.memories.applyEdits (changes.filterMap Change.memory?)
      candidates := t.candidates.applyEdits (changes.filterMap Change.candidate?) } := by
  rw [← conversations_applyAll, ← turns_applyAll, ← evidence_applyAll, ← memories_applyAll,
    ← candidates_applyAll]
  rfl

theorem after_nil : t.after [] = t := rfl

/-- The tables without some records. -/
def Tables.withoutMemories (t : Tables) (ids : List Uuid) : Tables :=
  { t with memories := t.memories.filter (fun row => !decide (row.id ∈ ids)) }

/-- The tables without the turns of a user. -/
def Tables.withoutTurnsOf (t : Tables) (ownerUserId : Uuid) : Tables :=
  { t with turns := t.turns.filter (fun row => !decide (row.ownerUserId = ownerUserId)) }

theorem after_eraseMemories (p : AssistantMemoryRecord → Bool) :
    t.after ((t.memories.rows.filter p).map (fun row => .memory (.erase row.id))) =
      { t with memories := t.memories.filter (fun row => !p row) } := by
  rw [after_eq, ← Table.applyEdits_erase_filter]
  simp only [List.filterMap_map, Function.comp_def, Change.conversation?, Change.turn?,
    Change.evidence?, Change.memory?, Change.candidate?, List.filterMap_none,
      List.filterMap_eq_map']
  rfl

theorem after_eraseTurns (p : ConversationTurnRecord → Bool) :
    t.after ((t.turns.rows.filter p).map (fun row => .turn (.erase row.id))) =
      { t with turns := t.turns.filter (fun row => !p row) } := by
  rw [after_eq, ← Table.applyEdits_erase_filter]
  simp only [List.filterMap_map, Function.comp_def, Change.conversation?, Change.turn?,
    Change.evidence?, Change.memory?, Change.candidate?, List.filterMap_none,
      List.filterMap_eq_map']
  rfl

/-- The tables without some conversations, their turns and their evidence. -/
def Tables.withoutConversations (t : Tables) (ids : List Uuid) : Tables :=
  let owned := (t.conversations.rows.filter (fun row => row.id ∈ ids)).map
    AssistantConversationRecord.ownerKey
  { t with
    conversations := t.conversations.filter (fun row => !decide (row.id ∈ ids))
    turns := t.turns.filter (fun row => !decide (row.ownerKey ∈ owned))
    evidence := t.evidence.filter (fun row => !decide (row.ownerKey ∈ owned)) }

theorem deleteConversations_alone (ids : List Uuid) (t : Tables) :
    ∃ n changes, ((Sql.deleteConversations ids).alone t).outcome = .ok (n, changes) ∧
      t.after changes = t.withoutConversations ids ∧ (ids = [] → changes = []) := by
  refine ⟨_, _, rfl, ?_, fun hids => by simp [hids]⟩
  unfold Tables.withoutConversations
  dsimp only
  rw [after_eq, ← Table.applyEdits_erase_filter, ← Table.applyEdits_erase_filter,
    ← Table.applyEdits_erase_filter]
  simp only [List.filterMap_append, List.filterMap_map, Function.comp_def, Change.conversation?,
    Change.turn?, Change.evidence?, Change.memory?, Change.candidate?, List.filterMap_none,
    List.filterMap_eq_map', List.append_nil, List.nil_append]
  rfl

/-! ## The statements of the erasure -/

def turnIdsOf (ownerUserId : Uuid) (t : Tables) : List Uuid :=
  (t.turns.rows.filter (fun row => row.ownerUserId = ownerUserId)).map (·.id)

def conversationIdsOf (ownerUserId : Uuid) (t : Tables) : List Uuid :=
  (t.conversations.rows.filter (fun row => row.ownerUserId = ownerUserId)).map (·.id)

/-- The records that an erasure deletes. -/
def erasedRecords (ownerUserId : Uuid) (t : Tables) : List AssistantMemoryRecord :=
  UserMemoryEraser.matchedRows ownerUserId (turnIdsOf ownerUserId t) (t.memories.rows.filter isLive)

/-- What an erasure leaves of the tables. -/
def erasedTables (ownerUserId : Uuid) (t : Tables) : Tables where
  conversations := t.conversations.filter (fun row => !decide (row.ownerUserId = ownerUserId))
  turns := t.turns.filter (fun row => !decide (row.ownerUserId = ownerUserId))
  evidence := t.evidence.filter fun row => !decide (row.ownerKey ∈
    (t.conversations.rows.filter (fun row => row.ownerUserId = ownerUserId)).map
      AssistantConversationRecord.ownerKey)
  memories :=
    t.memories.filter (fun row => !decide (row.id ∈ (erasedRecords ownerUserId t).map (·.id)))
  candidates := t.candidates

/-- What is left of the index after the vectors of some records are deleted. -/
def VectorIndex.without (x : VectorIndex) (records : List AssistantMemoryRecord) : VectorIndex :=
  x.filter (fun vector => !decide (vector.key ∈ records.map AssistantMemoryRecord.vectorKey))

namespace Alone

variable {ids : List Uuid}

/-- A statement that is not sent for an empty list would change nothing then. -/
theorem unlessEmpty {stmt : List Uuid → Action Nat} {n : Nat} {changes : List Change}
    (h : Alone i t v x w)
    (hsql : FinishesAlone i (stmt ids) w (fun r w' => r = .ok n ∧ Alone i t (v.after changes) x w'))
    (hempty : ids = [] → v.after changes = v) :
    FinishesAlone i (ShortTermRetentionJob.unlessEmpty ids stmt) w
      (fun r w' => r = .ok () ∧ Alone i t (v.after changes) x w') := by
  unfold ShortTermRetentionJob.unlessEmpty
  split
  · rename_i hids
    rw [hempty (List.isEmpty_iff.mp hids)]
    exact Finishes.pure ⟨rfl, h⟩
  · refine hsql.bind ?_ (fun e w' hQ => by cases hQ.1)
    rintro _ w' ⟨-, halone⟩
    exact Finishes.pure ⟨rfl, halone⟩

/-- The vectors that some groups of records have under their namespaces. -/
def inGroups (groups : List (String × List AssistantMemoryRecord)) (vector : StoredVector) : Bool :=
  groups.any fun group =>
    vector.vectorNamespace = group.1 ∧ vector.vectorId ∈ group.2.map (·.vectorId)

omit [DecidableEq ι] in
theorem inGroups_groupByNamespace (records : List AssistantMemoryRecord) (vector : StoredVector) :
    inGroups (groupByNamespace records) vector =
      decide (vector.key ∈ records.map AssistantMemoryRecord.vectorKey) := by
  rw [Bool.eq_iff_iff, decide_eq_true_iff]
  unfold inGroups groupByNamespace
  simp only [List.any_map, List.any_eq_true, Function.comp_def, decide_eq_true_iff, List.mem_map,
    List.mem_filter]
  constructor
  · rintro ⟨vectorNamespace, -, rfl, record, ⟨hrecord, hnamespace⟩, hid⟩
    exact ⟨record, hrecord, Prod.ext hnamespace hid⟩
  · rintro ⟨record, hrecord, hkey⟩
    obtain ⟨hnamespace, hid⟩ := Prod.mk.inj hkey
    refine ⟨record.vectorNamespace, ?_, hnamespace.symm, record, ⟨hrecord, rfl⟩, hid⟩
    rw [List.mem_eraseDups]
    exact List.mem_map_of_mem hrecord

theorem deleteVectors (h : Alone i t v x w) (records : List AssistantMemoryRecord) :
    FinishesAlone i (Memory.deleteVectors records) w
      (fun r w' => ∃ n, r = .ok n ∧ Alone i t v (x.without records) w') := by
  unfold Memory.deleteVectors
  refine Finishes.foldEach
    (fun done _ w => Alone i t v (x.filter (fun vector => !inGroups done vector)) w) [] ?_ ?_ ?_
  · have hall : x.filter (fun vector => !inGroups [] vector) = x :=
      Table.filter_eq_self (fun _ _ => rfl)
    rwa [hall]
  · intro done group acc w halone _
    refine (halone.deleteIds group.1 (group.2.map (·.vectorId))).bind ?_
      (fun e w' hQ => by cases hQ.1)
    rintro _ w' ⟨-, hdeleted⟩
    refine Finishes.pure ⟨_, rfl, ?_⟩
    have hfilter : VectorIndex.deleteIds (x.filter (fun vector => !inGroups done vector)) group.1
        (group.2.map (·.vectorId)) = x.filter (fun vector =>
            !inGroups (done ++ [group]) vector) := by
      ext1
      refine List.filter_filter.trans (List.filter_congr fun vector _ => ?_)
      unfold inGroups
      rw [List.any_append, Bool.not_or, Bool.and_comm]
      simp
    rwa [hfilter] at hdeleted
  · intro acc w' halone
    refine ⟨acc, rfl, ?_⟩
    have hfilter : x.filter (fun vector => !inGroups ([] ++ groupByNamespace records) vector) =
        x.without records := by
      refine Table.filter_congr fun vector _ => ?_
      rw [List.nil_append, inGroups_groupByNamespace]
    rwa [hfilter] at halone

end Alone

/-! ## The erasure -/

/-- The error of the foreign key from fact candidates to records. -/
def promotedRecordError : PyError :=
  integrityError "fk_assistant_memory_candidates_promoted_memory_record_id"

omit [DecidableEq ι] in
theorem erasedRecords_eq_filter (ownerUserId : Uuid) (t : Tables) :
    ∃ p, erasedRecords ownerUserId t = t.memories.rows.filter p :=
  ⟨_, List.filter_filter⟩

theorem deleteMemories_alone {records : List AssistantMemoryRecord}
    (hrecords : ∃ p, records = t.memories.rows.filter p) :
    ((Sql.deleteMemories (records.map (·.id))).alone t).outcome =
      if referenced records t then .error promotedRecordError
      else .ok (records.length, records.map (fun row => .memory (.erase row.id))) := by
  obtain ⟨p, rfl⟩ := hrecords
  unfold Sql.alone Sql.effect deleteMemories
  dsimp only
  rw [Table.filter_key_mem]
  rfl

theorem after_deleteMemories {records : List AssistantMemoryRecord}
    (hrecords : ∃ p, records = t.memories.rows.filter p) :
    t.after (records.map (fun row => .memory (.erase row.id))) =
      t.withoutMemories (records.map (·.id)) := by
  obtain ⟨p, rfl⟩ := hrecords
  conv_lhs => rw [← Table.filter_key_mem]
  exact after_eraseMemories _

/-- The deletion of the turns that satisfy a condition, by their ids. -/
theorem deleteTurns_filter_alone (p : ConversationTurnRecord → Bool) (t : Tables) :
    ∃ n changes, ((Sql.deleteTurns ((t.turns.rows.filter p).map (·.id))).alone t).outcome =
        .ok (n, changes) ∧
      t.after changes = { t with turns := t.turns.filter (fun row => !p row) } ∧
      ((t.turns.rows.filter p).map (·.id) = [] → changes = []) := by
  refine ⟨_, _, rfl, ?_, fun hids => by simp [hids]⟩
  rw [Table.filter_key_mem]
  exact after_eraseTurns _

theorem deleteTurns_alone (ownerUserId : Uuid) (t : Tables) :
    ∃ n changes, ((Sql.deleteTurns (turnIdsOf ownerUserId t)).alone t).outcome = .ok (n, changes) ∧
      t.after changes = t.withoutTurnsOf ownerUserId ∧
      (turnIdsOf ownerUserId t = [] → changes = []) :=
  deleteTurns_filter_alone _ t

/-- Without the user's records and turns, the deletion of the conversations leaves what an erasure
leaves. -/
theorem withoutConversations_eq (ownerUserId : Uuid) (t : Tables) :
    ((t.withoutMemories ((erasedRecords ownerUserId t).map (·.id))).withoutTurnsOf
      ownerUserId).withoutConversations (conversationIdsOf ownerUserId t) =
      erasedTables ownerUserId t := by
  unfold Tables.withoutConversations erasedTables conversationIdsOf Tables.withoutTurnsOf
    Tables.withoutMemories
  dsimp only
  rw [Table.filter_key_mem]
  congr 1
  · refine Table.filter_congr fun row hrow => ?_
    rw [Bool.eq_iff_iff, Bool.not_eq_true', decide_eq_false_iff_not, Table.key_mem_map_filter hrow]
    simp
  · refine Table.filter_eq_self fun row hrow => ?_
    have howner := (Table.mem_filter.mp hrow).2
    rw [Bool.not_eq_true', decide_eq_false_iff_not] at howner ⊢
    intro hlisted
    obtain ⟨conversation, hconversation, hkey⟩ := List.mem_map.mp hlisted
    apply howner
    exact (congrArg Prod.snd hkey).symm.trans
      (of_decide_eq_true (List.mem_filter.mp hconversation).2)

theorem eraseCheckpoints_alone (eraser : UserMemoryEraser) (ownerUserId : Uuid)
    (conversationIds : List Uuid) (h : Alone i t v x w) :
    FinishesAlone i (eraser.eraseCheckpoints ownerUserId conversationIds) w
      (fun r w' => r = .ok () ∧ Alone i t v x w') := by
  unfold UserMemoryEraser.eraseCheckpoints
  split
  · refine Finishes.forEach (fun _ w => Alone i t v x w) [] h ?_ (fun w' h => ⟨rfl, h⟩)
    intro _ conversationId w h _
    exact h.eraseCheckpoint ownerUserId conversationId
  · exact Finishes.pure ⟨rfl, h⟩

/-- Step 5 of the erasure when a candidate refers to one of the records. -/
theorem eraseRows_referenced (eraser : UserMemoryEraser) (ownerUserId : Uuid) (h : Alone i t t x w)
    (hreferenced : referenced (erasedRecords ownerUserId t) t = true) :
    FinishesAlone i (eraser.eraseRows ownerUserId ((erasedRecords ownerUserId t).map (·.id))) w
      (fun r w' => r = .error promotedRecordError ∧ Alone i t t x w') := by
  have houtcome := deleteMemories_alone (erasedRecords_eq_filter ownerUserId t)
  rw [if_pos hreferenced] at houtcome
  have hids : ((erasedRecords ownerUserId t).map (·.id)).isEmpty = false := by
    cases hcase : erasedRecords ownerUserId t with
    | nil =>
      rw [hcase] at hreferenced
      simp [referenced] at hreferenced
    | cons record rest => rfl
  refine (Alone.inSession (fun r t' x' =>
    r = .error promotedRecordError ∧ t' = t ∧ x' = x) ?_).post ?_
  · have hdelete : FinishesAlone i (ShortTermRetentionJob.unlessEmpty
        ((erasedRecords ownerUserId t).map (·.id)) (fun ids => sql (.deleteMemories ids))) w
        (fun r w' => r = .error promotedRecordError ∧ Alone i t t x w') := by
      unfold ShortTermRetentionJob.unlessEmpty
      rw [if_neg (by simp [hids])]
      refine (h.sql_error houtcome).bind ?_ (fun e w' hQ => ?_)
      · rintro a w' ⟨heq, -⟩
        cases heq
      · cases hQ.1
        exact ⟨rfl, hQ.2⟩
    refine hdelete.bind ?_ (fun e w' hQ => ?_)
    · rintro a w' ⟨heq, -⟩
      cases heq
    · cases hQ.1
      exact ⟨t, t, x, ⟨rfl, rfl, rfl⟩, hQ.2⟩
  · rintro r w' ⟨t', x', ⟨rfl, rfl, rfl⟩, halone⟩
    exact ⟨rfl, halone⟩

/-- Step 5 of the erasure otherwise. -/
theorem eraseRows_alone (eraser : UserMemoryEraser) (ownerUserId : Uuid) (h : Alone i t t x w)
    (hreferenced : referenced (erasedRecords ownerUserId t) t = false) :
    FinishesAlone i (eraser.eraseRows ownerUserId ((erasedRecords ownerUserId t).map (·.id))) w
      (fun r w' => (∃ counts, r = .ok counts) ∧
        Alone i (erasedTables ownerUserId t) (erasedTables ownerUserId t) x w') := by
  have hrecords := erasedRecords_eq_filter ownerUserId t
  have houtcome := deleteMemories_alone hrecords
  rw [if_neg (by simp [hreferenced])] at houtcome
  refine (Alone.inSession (fun r t' x' =>
    (∃ counts, r = .ok counts) ∧ t' = erasedTables ownerUserId t ∧ x' = x) ?_).post ?_
  · refine (h.unlessEmpty (h.sql houtcome) ?_).bind ?_ (fun e w' hQ => by cases hQ.1)
    · intro hids
      rw [List.map_eq_nil_iff.mp hids]
      rfl
    rintro _ w₁ ⟨-, h₁⟩
    rw [after_deleteMemories hrecords] at h₁
    refine (h₁.sql rfl).bind ?_ (fun e w' hQ => by cases hQ.1)
    rintro turnIds w₂ ⟨hturnIds, h₂⟩
    cases hturnIds
    obtain ⟨n, changes, hdeleted, hafter, hempty⟩ := deleteTurns_alone ownerUserId
      (t.withoutMemories ((erasedRecords ownerUserId t).map (·.id)))
    refine (h₂.unlessEmpty (h₂.sql hdeleted) (fun hids => by rw [hempty hids]; rfl)).bind ?_
      (fun e w' hQ => by cases hQ.1)
    rintro _ w₃ ⟨-, h₃⟩
    rw [after_nil, hafter] at h₃
    refine (h₃.sql rfl).bind ?_ (fun e w' hQ => by cases hQ.1)
    rintro conversationIds w₄ ⟨hconversationIds, h₄⟩
    cases hconversationIds
    refine (eraseCheckpoints_alone eraser ownerUserId _ h₄).bind ?_ (fun e w' hQ => by cases hQ.1)
    rintro _ w₅ ⟨-, h₅⟩
    obtain ⟨n', changes', hdeleted', hafter', hempty'⟩ := deleteConversations_alone
      (conversationIdsOf ownerUserId t)
      ((t.withoutMemories ((erasedRecords ownerUserId t).map (·.id))).withoutTurnsOf ownerUserId)
    refine (h₅.unlessEmpty (h₅.sql hdeleted') (fun hids => by rw [hempty' hids]; rfl)).bind ?_
      (fun e w' hQ => by cases hQ.1)
    rintro _ w₆ ⟨-, h₆⟩
    rw [after_nil, hafter', withoutConversations_eq] at h₆
    refine h₆.commit.bind ?_ (fun e w' hQ => by cases hQ.1)
    rintro _ w₇ ⟨-, h₇⟩
    exact Finishes.pure ⟨_, _, x, ⟨⟨_, rfl⟩, rfl, rfl⟩, h₇⟩
  · rintro r w' ⟨t', x', ⟨hok, rfl, rfl⟩, halone⟩
    exact ⟨hok, halone⟩

/-- What an erasure reads and deletes before step 5. -/
theorem eraseUserMemory_reads (eraser : UserMemoryEraser) (ownerUserId : Uuid) (h : Alone i t t x w)
    {Q : Except PyError EraseUserMemoryResult → World ι → Prop}
    (hrows : ∀ w', Alone i t t (x.without (erasedRecords ownerUserId t)) w' →
      FinishesAlone i (eraser.eraseRows ownerUserId ((erasedRecords ownerUserId t).map (·.id))) w'
        (fun r w'' => ∀ result : Nat × Nat → EraseUserMemoryResult, Q (r.map result) w'')) :
    FinishesAlone i (eraser.eraseUserMemory ownerUserId) w Q := by
  have hfound : FinishesAlone i (inSession do
      let userTurnIds ← sql (.selectTurnIds ownerUserId)
      let memoryRows ← sql .selectLiveMemories
      return (userTurnIds, memoryRows)) w
      (fun r w' => ∃ t' x', (r = .ok (turnIdsOf ownerUserId t, t.memories.rows.filter isLive) ∧
        t' = t ∧ x' = x) ∧ Alone i t' t' x' w') := by
    refine Alone.inSession (fun r t' x' =>
      r = .ok (turnIdsOf ownerUserId t, t.memories.rows.filter isLive) ∧ t' = t ∧ x' = x) ?_
    refine (h.sql rfl).bind ?_ (fun e w' hQ => by cases hQ.1)
    rintro _ w₁ ⟨heq, h₁⟩
    cases heq
    refine (h₁.sql rfl).bind ?_ (fun e w' hQ => by cases hQ.1)
    rintro _ w₂ ⟨heq, h₂⟩
    cases heq
    exact Finishes.pure ⟨t, _, x, ⟨rfl, rfl, rfl⟩, h₂⟩
  refine hfound.bind ?_ (fun e w' hQ => by obtain ⟨_, _, ⟨heq, -⟩, -⟩ := hQ; cases heq)
  rintro _ w₁ ⟨t', x', ⟨heq, ht, hx⟩, h₁⟩
  cases heq
  rw [ht, hx] at h₁
  refine (h₁.deleteVectors (erasedRecords ownerUserId t)).bind ?_
    (fun e w' hQ => by obtain ⟨_, heq, -⟩ := hQ; cases heq)
  rintro n w₂ ⟨_, -, h₂⟩
  refine (hrows w₂ h₂).bind ?_ (fun e w' hQ => hQ (fun _ => ⟨0, 0, 0, 0⟩))
  rintro counts w₃ hQ
  exact Finishes.pure (hQ (fun counts => ⟨_, _, counts.1, counts.2⟩))

theorem eraseUserMemory_referenced (eraser : UserMemoryEraser) (ownerUserId : Uuid)
    (h : Alone i t t x w) (hreferenced : referenced (erasedRecords ownerUserId t) t = true) :
    FinishesAlone i (eraser.eraseUserMemory ownerUserId) w (fun r w' =>
      r = .error promotedRecordError ∧
        Alone i t t (x.without (erasedRecords ownerUserId t)) w') := by
  refine eraseUserMemory_reads eraser ownerUserId h fun w' h' => ?_
  refine (eraseRows_referenced eraser ownerUserId h' hreferenced).post ?_
  rintro _ w'' ⟨rfl, halone⟩ result
  exact ⟨rfl, halone⟩

theorem eraseUserMemory_alone (eraser : UserMemoryEraser) (ownerUserId : Uuid)
    (h : Alone i t t x w) (hreferenced : referenced (erasedRecords ownerUserId t) t = false) :
    FinishesAlone i (eraser.eraseUserMemory ownerUserId) w (fun r w' => (∃ result, r = .ok result) ∧
      Alone i (erasedTables ownerUserId t) (erasedTables ownerUserId t)
        (x.without (erasedRecords ownerUserId t)) w') := by
  refine eraseUserMemory_reads eraser ownerUserId h fun w' h' => ?_
  refine (eraseRows_alone eraser ownerUserId h' hreferenced).post ?_
  rintro _ w'' ⟨⟨counts, rfl⟩, halone⟩ result
  exact ⟨⟨_, rfl⟩, halone⟩

/-! ## Completeness and confinement -/

/-- The record is the user's, or derived from a turn that the user has. -/
def OfUser (ownerUserId : Uuid) (t : Tables) (row : AssistantMemoryRecord) : Prop :=
  row.ownerUserId = some ownerUserId ∨ ∃ turnId ∈ row.sourceTurnIds, ∃ turn ∈ t.turns,
    turn.id = turnId ∧ turn.ownerUserId = ownerUserId

/-- The composite foreign keys of turns and evidence, and that of promoted candidates. -/
structure Tables.ForeignKeys (t : Tables) : Prop where
  turns : ∀ row ∈ t.turns, ∃ conversation ∈ t.conversations, conversation.ownerKey = row.ownerKey
  evidence : ∀ row ∈ t.evidence, ∃ conversation ∈ t.conversations,
    conversation.ownerKey = row.ownerKey
  candidates : ∀ row ∈ t.candidates, ∀ id, row.promotedMemoryRecordId = some id →
    ∃ record ∈ t.memories, record.id = id

/-- Nothing of a user is left, in the tables after an erasure and in the index. -/
structure Erased (ownerUserId : Uuid) (t t' : Tables) (x' : VectorIndex) : Prop where
  memories : ∀ row ∈ t'.memories, ¬ OfUser ownerUserId t row
  candidates : ∀ row ∈ t'.candidates, row.ownerUserId ≠ ownerUserId
  conversations : ∀ row ∈ t'.conversations, row.ownerUserId ≠ ownerUserId
  turns : ∀ row ∈ t'.turns, row.ownerUserId ≠ ownerUserId
  evidence : ∀ row ∈ t'.evidence, row.ownerUserId ≠ ownerUserId
  vectors : ∀ row ∈ t.memories, OfUser ownerUserId t row → ∀ vector ∈ x', vector.key ≠ row.vectorKey

/-- What is not a user's is as it was. -/
structure Confined (ownerUserId : Uuid) (t t' : Tables) (x x' : VectorIndex) : Prop where
  memories : ∀ row, ¬ OfUser ownerUserId t row → (row ∈ t'.memories ↔ row ∈ t.memories)
  candidates : ∀ row, row.ownerUserId ≠ ownerUserId → (row ∈ t'.candidates ↔ row ∈ t.candidates)
  conversations : ∀ row, row.ownerUserId ≠ ownerUserId →
    (row ∈ t'.conversations ↔ row ∈ t.conversations)
  turns : ∀ row, row.ownerUserId ≠ ownerUserId → (row ∈ t'.turns ↔ row ∈ t.turns)
  evidence : ∀ row, row.ownerUserId ≠ ownerUserId → (row ∈ t'.evidence ↔ row ∈ t.evidence)
  vectors : ∀ vector,
    (∀ row ∈ t.memories, row.vectorKey = vector.key → ¬ OfUser ownerUserId t row) →
    (vector ∈ x' ↔ vector ∈ x)

section

variable {ownerUserId : Uuid}

omit [DecidableEq ι]

theorem mem_erasedRecords {row : AssistantMemoryRecord} :
    row ∈ erasedRecords ownerUserId t ↔
      row ∈ t.memories ∧ row.deletedAt = none ∧ OfUser ownerUserId t row := by
  unfold erasedRecords UserMemoryEraser.matchedRows OfUser turnIdsOf
  simp only [List.mem_filter, decide_eq_true_iff, List.any_eq_true, List.mem_map, isLive,
    Option.isNone_iff_eq_none]
  constructor
  · rintro ⟨⟨hrow, hlive⟩, howner | ⟨turnId, hturnId, turn, ⟨hturn, howner⟩, hid⟩⟩
    · exact ⟨hrow, hlive, .inl howner⟩
    · exact ⟨hrow, hlive, .inr ⟨turnId, hturnId, turn, hturn, hid, howner⟩⟩
  · rintro ⟨hrow, hlive, howner | ⟨turnId, hturnId, turn, hturn, hid, howner⟩⟩
    · exact ⟨⟨hrow, hlive⟩, .inl howner⟩
    · exact ⟨⟨hrow, hlive⟩, .inr ⟨turnId, hturnId, turn, ⟨hturn, howner⟩, hid⟩⟩

theorem mem_erasedTables_memories {row : AssistantMemoryRecord} :
    row ∈ (erasedTables ownerUserId t).memories ↔
      row ∈ t.memories ∧ ¬ (row.deletedAt = none ∧ OfUser ownerUserId t row) := by
  unfold erasedTables
  dsimp only
  rw [Table.mem_filter, Bool.not_eq_true', decide_eq_false_iff_not]
  constructor
  · rintro ⟨hrow, hids⟩
    refine ⟨hrow, fun hmatched => hids ?_⟩
    exact List.mem_map_of_mem (mem_erasedRecords.mpr ⟨hrow, hmatched⟩)
  · rintro ⟨hrow, hnot⟩
    refine ⟨hrow, fun hids => ?_⟩
    obtain ⟨row', hrow', hid⟩ := List.mem_map.mp hids
    obtain ⟨hmem, hmatched⟩ := mem_erasedRecords.mp hrow'
    rw [Table.eq_of_key_eq hmem hrow hid] at hmatched
    exact hnot hmatched

theorem mem_without {records : List AssistantMemoryRecord} {vector : StoredVector} :
    vector ∈ x.without records ↔ vector ∈ x ∧ ∀ record ∈ records,
      record.vectorKey ≠ vector.key := by
  unfold VectorIndex.without
  rw [Table.mem_filter, Bool.not_eq_true', decide_eq_false_iff_not, List.mem_map]
  simp only [not_exists, not_and]

theorem confined_erasedTables :
    Confined ownerUserId t (erasedTables ownerUserId t) x
      (x.without (erasedRecords ownerUserId t)) where
  memories row hother := by
    rw [mem_erasedTables_memories]
    exact ⟨fun h => h.1, fun h => ⟨h, fun hmatched => hother hmatched.2⟩⟩
  candidates row _ := Iff.rfl
  conversations row hother := by
    refine Table.mem_filter.trans ?_
    simp [hother]
  turns row hother := by
    refine Table.mem_filter.trans ?_
    simp [hother]
  evidence row hother := by
    refine Table.mem_filter.trans ⟨fun h => h.1, fun h => ⟨h, ?_⟩⟩
    rw [Bool.not_eq_true', decide_eq_false_iff_not]
    intro hlisted
    obtain ⟨conversation, hconversation, hkey⟩ := List.mem_map.mp hlisted
    exact hother ((congrArg Prod.snd hkey).symm.trans
      (of_decide_eq_true (List.mem_filter.mp hconversation).2))
  vectors vector hother := by
    rw [mem_without]
    refine ⟨fun h => h.1, fun h => ⟨h, fun record hrecord hkey => ?_⟩⟩
    obtain ⟨hrow, -, hmatched⟩ := mem_erasedRecords.mp hrecord
    exact hother record hrow hkey hmatched

theorem erased_erasedTables_iff (hkeys : t.ForeignKeys) :
    Erased ownerUserId t (erasedTables ownerUserId t) (x.without (erasedRecords ownerUserId t)) ↔
      (∀ row ∈ t.candidates, row.ownerUserId ≠ ownerUserId) ∧
      ∀ row ∈ t.memories, OfUser ownerUserId t row → row.deletedAt = none := by
  constructor
  · intro h
    refine ⟨h.candidates, fun row hrow hmatched => ?_⟩
    by_contra hdeleted
    exact h.memories row
      (mem_erasedTables_memories.mpr ⟨hrow, fun hlive => hdeleted hlive.1⟩) hmatched
  · rintro ⟨hcandidates, hmemories⟩
    constructor
    · intro row hrow hmatched
      obtain ⟨hmem, hnot⟩ := mem_erasedTables_memories.mp hrow
      exact hnot ⟨hmemories row hmem hmatched, hmatched⟩
    · exact hcandidates
    · intro row hrow
      simpa using (Table.mem_filter.mp hrow).2
    · intro row hrow
      simpa using (Table.mem_filter.mp hrow).2
    · -- the conversation of the evidence is the user's, and goes with its evidence
      intro row hrow howner
      obtain ⟨hmem, hunlisted⟩ := Table.mem_filter.mp hrow
      rw [Bool.not_eq_true', decide_eq_false_iff_not] at hunlisted
      obtain ⟨conversation, hconversation, hkey⟩ := hkeys.evidence row hmem
      apply hunlisted
      rw [← hkey]
      refine List.mem_map_of_mem (List.mem_filter.mpr ⟨hconversation, ?_⟩)
      rw [decide_eq_true_iff]
      exact (congrArg Prod.snd hkey).trans howner
    · intro row hrow hmatched vector hvector hkey
      obtain ⟨-, hnone⟩ := mem_without.mp hvector
      exact hnone row
        (mem_erasedRecords.mpr ⟨hrow, hmemories row hrow hmatched, hmatched⟩) hkey.symm

end

theorem eraseUserMemory_complete_iff (eraser : UserMemoryEraser) (ownerUserId : Uuid) (t : Tables)
    (x : VectorIndex) (log : List (ι × Event)) (hkeys : t.ForeignKeys)
    (result : EraseUserMemoryResult)
    (w' : World ι)
    (hrun : (eraser.eraseUserMemory ownerUserId).run exec i .arrives ⟨.idle t, x, log⟩ =
      some (.ok result, w')) :
    (Erased ownerUserId t w'.server.committed w'.index ∧
      Confined ownerUserId t w'.server.committed x w'.index) ↔
    (∀ row ∈ t.candidates, row.ownerUserId ≠ ownerUserId) ∧
      ∀ row ∈ t.memories, OfUser ownerUserId t row → row.deletedAt = none := by
  have hstart : Alone i t t x ⟨.idle t, x, log⟩ := Alone.start i log
  cases hreferenced : referenced (erasedRecords ownerUserId t) t with
  | true =>
    obtain ⟨r, w₁, hrun', rfl, -⟩ :=
      eraseUserMemory_referenced eraser ownerUserId hstart hreferenced
    cases hrun.symm.trans hrun'
  | false =>
    obtain ⟨r, w₁, hrun', -, halone⟩ := eraseUserMemory_alone eraser ownerUserId hstart hreferenced
    cases hrun.symm.trans hrun'
    rw [halone.committed, halone.index, erased_erasedTables_iff hkeys]
    exact and_iff_left confined_erasedTables

/-! ### A user with one preference -/

/-- One conversation with one turn, and a record that was promoted from it. -/
def preferenceTables : Tables where
  conversations := Table.empty.put ⟨.ofNat 1, .ofNat 10, 5, 5, 1, none, none⟩
  turns :=
    Table.empty.put ⟨.ofNat 100, .ofNat 1, .ofNat 10, "user", "Metric units, please.", 5, none⟩
  evidence := .empty
  memories := Table.empty.put {
    id := .ofNat 300
    kind := "conversation_summary"
    ownerUserId := some (.ofNat 10)
    siteCode := none
    requiredPermissions := []
    content := "The operator prefers metric units."
    contentSha256 := "13144e74d694dfe96c43dc1c4eee8d163b828a80a4fb28bc439c5335d8ad3d61"
    sourceTurnIds := [.ofNat 100]
    sourceDocumentId := none
    vectorNamespace := "user-memory"
    vectorId := (Uuid.ofNat 300).str
    embeddingModel := "text-embedding-3-small"
    createdAt := 7
    expiresAt := none }
  candidates := .empty

theorem preferenceTables_foreignKeys : preferenceTables.ForeignKeys where
  turns row hrow := by
    cases List.mem_singleton.mp hrow
    exact ⟨_, List.mem_singleton.mpr rfl, rfl⟩
  evidence row hrow := absurd hrow (Table.not_mem_empty row)
  candidates row hrow := absurd hrow (Table.not_mem_empty row)

theorem eraseUserMemory_complete_iff_preference : ∃ result, ∃ w' : World Unit,
    (({} : UserMemoryEraser).eraseUserMemory (.ofNat 10)).run exec () .arrives
      ⟨.idle preferenceTables, .empty, []⟩ = some (.ok result, w') ∧
    Erased (.ofNat 10) preferenceTables w'.server.committed w'.index ∧
    Confined (.ofNat 10) preferenceTables w'.server.committed .empty w'.index := by
  have hstart :
      Alone () preferenceTables preferenceTables .empty ⟨.idle preferenceTables, .empty, []⟩ :=
    Alone.start () []
  obtain ⟨r, w', hrun, ⟨result, rfl⟩, -⟩ :=
    eraseUserMemory_alone {} (.ofNat 10) hstart (by decide)
  refine ⟨result, w', hrun, (eraseUserMemory_complete_iff {} (.ofNat 10) preferenceTables .empty []
    preferenceTables_foreignKeys result w' hrun).mpr ⟨?_, ?_⟩⟩
  · exact fun row hrow => absurd hrow (Table.not_mem_empty row)
  · intro row hrow _
    cases List.mem_singleton.mp hrow
    rfl

/-! ### A rejected fact -/

/-- A user's turn, and a fact that was extracted from it and rejected. -/
def rejectedFact : List Call := [
  .append (.ofNat 1) ⟨"user", "We are at 40 units today.", 5⟩ (.ofNat 10) (.ofNat 100),
  .recordOutcome (.ofNat 1) (.ofNat 10)
    ⟨"The line makes 40 units today.", "metric_value", [.ofNat 100], [], true⟩ "rejected"
    "non_storable_class" (.ofNat 200) 6]

def rejectedComponents : Components :=
  .wired .ascii (fun _ => "3e891d1aeb34d579018d0d649114ef9adeb39625260401056f6092ed62e3d395") id

/-- The state after the consolidation, and the erasure of the user. -/
def rejectedRun : Option (World Unit × Except PyError EraseUserMemoryResult × World Unit) :=
  (runAlone rejectedComponents rejectedFact (World.idle .empty .empty)).bind fun w =>
    ((rejectedComponents.eraser.eraseUserMemory (.ofNat 10)).run exec () .arrives w).map
      fun (r, w') =>
      (w, r, w')

/-- The fact candidate of an erased user stays. -/
theorem eraseUserMemory_leaves_candidate : ∃ w result w',
    runAlone rejectedComponents rejectedFact (World.idle .empty .empty) = some w ∧
    (rejectedComponents.eraser.eraseUserMemory (.ofNat 10)).run exec () .arrives w =
      some (.ok result, w') ∧
    ¬ Erased (.ofNat 10) w.server.committed w'.server.committed w'.index := by
  have hrun : rejectedRun.any (fun (_, r, w') => r.isOk ∧
      w'.server.committed.candidates.rows.any (fun row => row.ownerUserId = .ofNat 10)) := by
    decide +kernel
  rw [Option.any_eq_true] at hrun
  obtain ⟨⟨w, r, w'⟩, hsome, hleft⟩ := hrun
  unfold rejectedRun at hsome
  rw [Option.bind_eq_some_iff] at hsome
  obtain ⟨w₀, hcalls, hrest⟩ := hsome
  rw [Option.map_eq_some_iff] at hrest
  obtain ⟨⟨r₀, w₁⟩, herase, heq⟩ := hrest
  cases heq
  rw [decide_eq_true_iff] at hleft
  obtain ⟨hok, hcandidate⟩ := hleft
  cases r with
  | error e => cases hok
  | ok result =>
    refine ⟨w, result, w', hcalls, herase, fun herased => ?_⟩
    obtain ⟨row, hrow, howner⟩ := List.any_eq_true.mp hcandidate
    exact herased.candidates row hrow (of_decide_eq_true howner)

end HotAirBalloon.Memory
