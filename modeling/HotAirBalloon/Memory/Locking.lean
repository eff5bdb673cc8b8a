import HotAirBalloon.Memory.Calls
import HotAirBalloon.Memory.Effects

/-!
# Rows under a lock

Whatever calls run, a session holds a lock on every row that it has written and not yet committed,
and two sessions do not hold such locks on one row. So a row that a session has locked changes for
nobody else: `ServerInv` is the invariant, and the frame lemmas say what a step of another session
leaves as it is.
-/

namespace HotAirBalloon.Memory

open Python Library

/-- The row that a change is about. -/
def Change.lockKey : Change → LockKey
  | conversation edit => .conversation edit.target
  | turn edit => .turn edit.target
  | evidence edit => .evidence edit.target
  | memory edit => .memory edit.target
  | candidate edit => .candidate edit.target

/-! ## Statements lock what they write -/

section

variable {stmt : Sql} {locked : LockKey → LockMode → Bool} {t : Tables} {a : stmt.Reply}
  {changes : List Change}

theorem lockKey_updateConversation {c u : Uuid} {set} {t : Tables} {a} {changes : List Change}
    (hset : ∀ row, (set row).id = row.id)
    (h : (updateConversation c u set t).outcome = .ok (a, changes)) :
    ∀ change ∈ changes, ∃ mode, (change.lockKey, mode) ∈ (updateConversation c u set t).locks ∧
      mode ≠ .keyShare := by
  rcases changes_updateConversation h with rfl | ⟨row, -, hid, -, rfl, hlocks⟩
  · exact fun change hmem => absurd hmem List.not_mem_nil
  · intro change hmem
    obtain rfl := List.mem_singleton.mp hmem
    refine ⟨.noKeyUpdate, ?_, by decide⟩
    rw [hlocks, List.mem_singleton, ← hid, ← hset row]
    rfl

theorem lockKey_updateMemory {id : Uuid} {set} {t : Tables} {a} {changes : List Change}
    (hset : ∀ row, (set row).id = row.id) (h : (updateMemory id set t).outcome = .ok (a, changes)) :
    ∀ change ∈ changes, ∃ mode, (change.lockKey, mode) ∈ (updateMemory id set t).locks ∧
      mode ≠ .keyShare := by
  rcases changes_updateMemory h with rfl | ⟨row, -, hid, rfl, hlocks⟩
  · exact fun change hmem => absurd hmem List.not_mem_nil
  · intro change hmem
    obtain rfl := List.mem_singleton.mp hmem
    refine ⟨.noKeyUpdate, ?_, by decide⟩
    rw [hlocks, List.mem_singleton, ← hid, ← hset row]
    rfl

/-- A statement takes a lock on every row that it writes. -/
theorem lockKey_mem_locks (h : (stmt.effect locked t).outcome = .ok (a, changes)) :
    ∀ change ∈ changes, ∃ mode, (change.lockKey, mode) ∈ (stmt.effect locked t).locks ∧
      mode ≠ .keyShare := by
  cases stmt with
  | claimConversation c u o =>
    unfold Sql.effect claimConversation at h ⊢
    dsimp only at h ⊢
    split at h
    · rw [changes_writeEffect h]
      intro change hmem
      obtain rfl := List.mem_singleton.mp hmem
      exact ⟨.forUpdate, List.mem_singleton_self _, by decide⟩
    · rename_i row hrow
      split at h
      · rename_i howner
        rw [changes_writeEffect h]
        intro change hmem
        obtain rfl := List.mem_singleton.mp hmem
        refine ⟨.noKeyUpdate, ?_, by decide⟩
        simp [howner, writeEffect, Change.lockKey, Edit.target, (Table.find?_eq_some_iff.mp hrow).2]
      · rw [changes_writeEffect h]
        exact fun change hmem => absurd hmem List.not_mem_nil
  | advanceConversation c u o n | closeConversation c u o =>
    exact lockKey_updateConversation (fun _ => rfl) h
  | markConsolidated id at_ =>
    change ∀ change ∈ changes, ∃ mode,
      (change.lockKey, mode) ∈ (markConsolidated id at_ t).locks ∧ _
    rcases changes_markConsolidated h with rfl | ⟨row, -, hid, rfl, hlocks⟩
    · exact fun change hmem => absurd hmem List.not_mem_nil
    · intro change hmem
      obtain rfl := List.mem_singleton.mp hmem
      refine ⟨.noKeyUpdate, ?_, by decide⟩
      rw [hlocks, List.mem_singleton, ← hid]
      rfl
  | deleteConversations ids =>
    rw [changes_writeEffect h]
    intro change hmem
    refine ⟨.forUpdate, ?_, by decide⟩
    simp only [List.mem_append, List.mem_map] at hmem
    unfold Sql.effect deleteConversations writeEffect
    simp only [List.mem_append, List.mem_map]
    rcases hmem with (⟨row, hrow, rfl⟩ | ⟨row, hrow, rfl⟩) | ⟨row, hrow, rfl⟩
    · exact .inl (.inr ⟨row, hrow, rfl⟩)
    · exact .inr ⟨row, hrow, rfl⟩
    · exact .inl (.inl ⟨row, hrow, rfl⟩)
  | insertTurn row =>
    cases changes_ite (changes_ite h)
    intro change hmem
    obtain rfl := List.mem_singleton.mp hmem
    exact ⟨.forUpdate, List.mem_cons_self, by decide⟩
  | insertEvidence row =>
    obtain ⟨hfits, rfl⟩ := outcome_insertEvidence h
    intro change hmem
    obtain rfl := List.mem_singleton.mp hmem
    refine ⟨.forUpdate, ?_, by decide⟩
    unfold Sql.effect insertEvidence
    simp [hfits, Change.lockKey, Edit.target]
  | insertMemory row =>
    cases changes_ite (changes_ite (changes_ite h))
    intro change hmem
    obtain rfl := List.mem_singleton.mp hmem
    exact ⟨.forUpdate, List.mem_cons_self, by decide⟩
  | insertCandidate row =>
    cases changes_ite (changes_ite h)
    intro change hmem
    obtain rfl := List.mem_singleton.mp hmem
    exact ⟨.forUpdate, List.mem_cons_self, by decide⟩
  | updateTurnExpiry id e =>
    unfold Sql.effect updateTurnExpiry at h ⊢
    dsimp only at h ⊢
    split at h
    · rw [changes_readEffect h]
      exact fun change hmem => absurd hmem List.not_mem_nil
    · rename_i row hrow
      rw [changes_writeEffect h]
      intro change hmem
      obtain rfl := List.mem_singleton.mp hmem
      refine ⟨.noKeyUpdate, ?_, by decide⟩
      simp [writeEffect, Change.lockKey, Edit.target, (Table.find?_eq_some_iff.mp hrow).2]
  | deleteCandidate id =>
    unfold Sql.effect deleteCandidate at h ⊢
    dsimp only at h ⊢
    split at h
    · rw [changes_readEffect h]
      exact fun change hmem => absurd hmem List.not_mem_nil
    · rw [changes_writeEffect h]
      intro change hmem
      obtain rfl := List.mem_singleton.mp hmem
      exact ⟨.forUpdate, List.mem_singleton_self _, by decide⟩
  | setPromotedRecord id m =>
    unfold Sql.effect setPromotedRecord at h ⊢
    dsimp only at h ⊢
    split at h
    · rw [changes_readEffect h]
      exact fun change hmem => absurd hmem List.not_mem_nil
    · rename_i row hrow
      cases changes_ite h
      intro change hmem
      obtain rfl := List.mem_singleton.mp hmem
      refine ⟨.noKeyUpdate, ?_, by decide⟩
      simp [Change.lockKey, Edit.target, (Table.find?_eq_some_iff.mp hrow).2]
  | deleteTurns ids | deleteEvidence c u =>
    rw [changes_writeEffect h]
    intro change hmem
    obtain ⟨row, hrow, rfl⟩ := List.mem_map.mp hmem
    exact ⟨.forUpdate, List.mem_map.mpr ⟨row, hrow, rfl⟩, by decide⟩
  | deleteMemories ids =>
    cases changes_ite h
    intro change hmem
    obtain ⟨row, hrow, rfl⟩ := List.mem_map.mp hmem
    exact ⟨.forUpdate, List.mem_map.mpr ⟨row, hrow, rfl⟩, by decide⟩
  | updateSourceTurnIds id ids | markSynced id at_ | recordSyncError id n m | markDeleted id at_ =>
    exact lockKey_updateMemory (fun _ => rfl) h
  | selectIdleForUpdate c n => simp [changes_writeEffect h]
  | selectUserFactForUpdate u k s => simp [changes_writeEffect h]
  | selectUnsyncedForUpdate n => simp [changes_writeEffect h]
  | selectExpiredMemoriesForUpdate now n => simp [changes_writeEffect h]
  | selectDeletedMemoriesForUpdate n => simp [changes_writeEffect h]
  | selectExpiredCandidatesForUpdate now n => simp [changes_writeEffect h]
  | _ => simp [changes_readEffect h]

/-- A claim locks its conversation, whoever owns it. -/
theorem lock_of_claim {c u : Uuid} {observedAt : DateTime} {t : Tables} :
    ∃ mode, (LockKey.conversation c, mode) ∈ (claimConversation c u observedAt t).locks ∧
      mode ≠ LockMode.keyShare := by
  unfold claimConversation
  split
  · exact ⟨.forUpdate, List.mem_singleton_self _, by decide⟩
  · split
    · exact ⟨.noKeyUpdate, List.mem_singleton_self _, by decide⟩
    · exact ⟨.noKeyUpdate, List.mem_singleton_self _, by decide⟩

/-- An update of a conversation that it finds locks it. -/
theorem lock_of_updateConversation {c u id : Uuid} {set} {t : Tables} {changes : List Change}
    (h : (updateConversation c u set t).outcome = .ok (some id, changes)) :
    (LockKey.conversation c, LockMode.noKeyUpdate) ∈ (updateConversation c u set t).locks := by
  unfold updateConversation at h ⊢
  cases hrow : ownedConversation c u t with
  | none =>
    rw [hrow] at h
    cases h
  | some row => exact List.mem_singleton_self _

end

/-! ## The invariant -/

/-- Sessions hold the locks of what they write, and no two sessions hold conflicting ones. -/
structure ServerInv {ι : Type} (w : World ι) : Prop where
  exclusive : w.server.Exclusive
  writes : ∀ i, ∀ change ∈ w.server.changes i, w.server.Writes i change.lockKey

section

variable {ι : Type} [DecidableEq ι] {i j : ι} {op : Op} {delivery : Delivery}
  {reply : Except PyError op.Reply} {w w' : World ι}

omit [DecidableEq ι] in
theorem ServerInv.idle (tables : Tables) (index : VectorIndex) :
    ServerInv (World.idle tables index : World ι) where
  exclusive := Server.exclusive_idle _
  writes _ _ h := absurd h List.not_mem_nil

/-- Every session keeps the locks that it writes under until it ends. -/
theorem writes_of_ne (hexec : exec i op delivery w = some (reply, w')) (hj : j ≠ i) {key : LockKey}
    (h : w.server.Writes j key) : w'.server.Writes j key := by
  rcases server_cases hexec
    with hserver | ⟨stmt, changes, -, hexecuted⟩ | ⟨-, hserver⟩ | ⟨-, hserver⟩
  · rw [hserver]
    exact h
  · exact hexecuted.keeps_writes h
  · exact writes_release h hj (by rw [hserver]; rfl)
  · exact writes_release h hj (by rw [hserver]; rfl)

namespace ServerInv

theorem of_exec (h : ServerInv w) (hexec : exec i op delivery w = some (reply, w')) :
    ServerInv w' := by
  have hothers : ∀ k ≠ i, ∀ change ∈ w'.server.changes k, w'.server.Writes k change.lockKey := by
    intro k hk change hmem
    rw [changes_of_ne hexec hk] at hmem
    exact writes_of_ne hexec hk (h.writes k change hmem)
  rcases server_cases hexec
    with hserver | ⟨stmt, changes, -, hexecuted⟩ | ⟨-, hserver⟩ | ⟨-, hserver⟩
  · refine ⟨?_, ?_⟩ <;> rw [hserver]
    · exact h.exclusive
    · exact h.writes
  · refine ⟨?_, ?_⟩
    · obtain ⟨r, hstatement⟩ := hexecuted.statement
      exact Server.exclusive_statement h.exclusive hstatement
    · intro k change hmem
      by_cases hk : k = i
      · subst hk
        rw [hexecuted.changes_eq, Function.update_self, List.mem_append] at hmem
        rcases hmem with hold | hnew
        · exact hexecuted.keeps_writes (h.writes k change hold)
        · obtain ⟨a, houtcome⟩ := hexecuted.outcome
          obtain ⟨mode, hlock, hmode⟩ := lockKey_mem_locks houtcome change hnew
          refine ⟨⟨k, change.lockKey, mode⟩, ?_, rfl, rfl, hmode⟩
          rw [hexecuted.locks_eq]
          exact List.mem_append_right _ (List.mem_map.mpr ⟨_, hlock, rfl⟩)
      · exact hothers k hk change hmem
  · have hlocks : w'.server.locks = w.server.release i := by rw [hserver]; rfl
    refine ⟨Server.exclusive_release h.exclusive hlocks, ?_⟩
    intro k change hmem
    by_cases hk : k = i
    · subst hk
      rw [hserver] at hmem
      simp [Server.commit] at hmem
    · exact hothers k hk change hmem
  · have hlocks : w'.server.locks = w.server.release i := by rw [hserver]; rfl
    refine ⟨Server.exclusive_release h.exclusive hlocks, ?_⟩
    intro k change hmem
    by_cases hk : k = i
    · subst hk
      rw [hserver] at hmem
      simp [Server.rollback] at hmem
    · exact hothers k hk change hmem

omit [DecidableEq ι] in
/-- The edits of a session leave the rows that another session has locked as they are. -/
theorem applyEdits_iff (h : ServerInv w) (hj : j ≠ i) {α κ : Type} [DecidableEq κ] {key : α → κ}
    {edits : List (Edit key)} (lockKey : κ → LockKey) {t : Table key} {row : α}
    (hedits : ∀ edit ∈ edits, w.server.Writes i (lockKey edit.target))
    (hlocked : w.server.Writes j (lockKey (key row))) : row ∈ t.applyEdits edits ↔ row ∈ t := by
  have hne : ∀ edit ∈ edits, edit.target ≠ key row := by
    intro edit hedit heq
    have hi := hedits edit hedit
    rw [heq] at hi
    exact hj (h.exclusive.eq_of_writes hlocked hi)
  constructor
  · intro hmem
    rcases Table.put_or_mem hmem with hput | hold
    · exact absurd rfl (hne _ hput)
    · exact hold
  · exact fun hmem => Table.mem_applyEdits_of_forall_ne hmem hne

/-- What a step does to the committed rows: nothing, or it commits what the session has written. -/
theorem committed_cases (hexec : exec i op delivery w = some (reply, w')) :
    w'.server.committed = w.server.committed ∨
      (op = .commit ∧ w'.server.committed = w.visible i ∧ w'.server.changes i = []) := by
  rcases server_cases hexec
    with hserver | ⟨stmt, changes, -, hexecuted⟩ | ⟨hop, hserver⟩ | ⟨-, hserver⟩
  · exact .inl (by rw [hserver])
  · exact .inl hexecuted.committed
  · refine .inr ⟨hop, ?_, ?_⟩
    · rw [hserver]
      rfl
    · rw [hserver]
      exact Function.update_self ..
  · exact .inl (by rw [hserver]; rfl)

/-- A change that is pending after a step was pending before, or the step has written it. -/
theorem change_cases (hexec : exec i op delivery w = some (reply, w')) {change : Change}
    (hmem : change ∈ w'.server.changes j) : change ∈ w.server.changes j ∨
      (j = i ∧ ∃ stmt changes, op = .sql stmt ∧ Executed i stmt w w' changes ∧
        change ∈ changes) := by
  by_cases hj : j = i
  · subst hj
    rcases server_cases hexec
      with hserver | ⟨stmt, changes, rfl, hexecuted⟩ | ⟨-, hserver⟩ | ⟨-, hserver⟩
    · exact .inl (hserver ▸ hmem)
    · rw [hexecuted.changes_eq, Function.update_self, List.mem_append] at hmem
      exact hmem.imp_right fun hnew => ⟨rfl, stmt, changes, rfl, hexecuted, hnew⟩
    · rw [hserver] at hmem
      simp [Server.commit] at hmem
    · rw [hserver] at hmem
      simp [Server.rollback] at hmem
  · rw [changes_of_ne hexec hj] at hmem
    exact .inl hmem

/-- A row that another session has locked is committed after a step exactly when it was before. -/
theorem memories_iff (h : ServerInv w) (hexec : exec i op delivery w = some (reply, w'))
    (hj : j ≠ i) {row : AssistantMemoryRecord} (hlocked : w.server.Writes j (.memory row.id)) :
    row ∈ w'.server.committed.memories ↔ row ∈ w.server.committed.memories := by
  rcases committed_cases hexec with hsame | ⟨-, hcommitted, -⟩
  · rw [hsame]
  · rw [hcommitted]
    unfold World.visible Server.visible
    rw [memories_applyAll]
    refine h.applyEdits_iff hj LockKey.memory ?_ hlocked
    intro edit hedit
    exact h.writes i _ ((mem_filterMap_memory? _).mp hedit)

/-- A row that a session is about to write is not committed by another one. -/
theorem memories_iff_of_pending (h : ServerInv w) (hexec : exec i op delivery w = some (reply, w'))
    {edit : Edit AssistantMemoryRecord.id} (hbefore : Change.memory edit ∈ w.server.changes j)
    (hafter : Change.memory edit ∈ w'.server.changes j) {row : AssistantMemoryRecord}
    (hid : row.id = edit.target) :
    row ∈ w'.server.committed.memories ↔ row ∈ w.server.committed.memories := by
  by_cases hj : j = i
  · subst hj
    rcases committed_cases hexec with hsame | ⟨-, -, hnil⟩
    · rw [hsame]
    · rw [hnil] at hafter
      cases hafter
  · refine h.memories_iff hexec hj ?_
    rw [hid]
    exact h.writes j _ hbefore

theorem conversations_iff (h : ServerInv w) (hexec : exec i op delivery w = some (reply, w'))
    (hj : j ≠ i) {row : AssistantConversationRecord}
    (hlocked : w.server.Writes j (.conversation row.id)) :
    row ∈ w'.server.committed.conversations ↔ row ∈ w.server.committed.conversations := by
  rcases committed_cases hexec with hsame | ⟨-, hcommitted, -⟩
  · rw [hsame]
  · rw [hcommitted]
    unfold World.visible Server.visible
    rw [conversations_applyAll]
    refine h.applyEdits_iff hj LockKey.conversation ?_ hlocked
    intro edit hedit
    exact h.writes i _ ((mem_filterMap_conversation? _).mp hedit)

theorem turns_iff (h : ServerInv w) (hexec : exec i op delivery w = some (reply, w')) (hj : j ≠ i)
    {row : ConversationTurnRecord} (hlocked : w.server.Writes j (.turn row.id)) :
    row ∈ w'.server.committed.turns ↔ row ∈ w.server.committed.turns := by
  rcases committed_cases hexec with hsame | ⟨-, hcommitted, -⟩
  · rw [hsame]
  · rw [hcommitted]
    unfold World.visible Server.visible
    rw [turns_applyAll]
    refine h.applyEdits_iff hj LockKey.turn ?_ hlocked
    intro edit hedit
    exact h.writes i _ ((mem_filterMap_turn? _).mp hedit)

end ServerInv

/-- What a step of a process may do to the other sessions: it keeps their changes, their locks and
the rows they have locked. -/
structure SessionGuar (i : ι) (w w' : World ι) : Prop where
  log : w.log <+: w'.log
  changes : ∀ j ≠ i, w'.server.changes j = w.server.changes j
  writes : ∀ j ≠ i, ∀ key, w.server.Writes j key → w'.server.Writes j key
  memories : ∀ j ≠ i, ∀ row, w.server.Writes j (.memory row.id) →
    (row ∈ w'.server.committed.memories ↔ row ∈ w.server.committed.memories)
  conversations : ∀ j ≠ i, ∀ row, w.server.Writes j (.conversation row.id) →
    (row ∈ w'.server.committed.conversations ↔ row ∈ w.server.committed.conversations)

omit [DecidableEq ι] in
theorem SessionGuar.refl (w : World ι) : SessionGuar i w w where
  log := List.prefix_refl _
  changes _ _ := rfl
  writes _ _ _ h := h
  memories _ _ _ _ := Iff.rfl
  conversations _ _ _ _ := Iff.rfl

omit [DecidableEq ι] in
/-- A session sees the rows that it has locked as before. -/
theorem SessionGuar.visible_memories_iff (h : SessionGuar j w w') (hij : i ≠ j)
    {row : AssistantMemoryRecord} (hlocked : w.server.Writes i (.memory row.id)) :
    row ∈ (w'.visible i).memories ↔ row ∈ (w.visible i).memories := by
  unfold World.visible Server.visible
  rw [memories_applyAll, memories_applyAll, h.changes i hij]
  exact Table.mem_applyEdits_congr (h.memories i hij row hlocked)

theorem ServerInv.guar (h : ServerInv w) (hexec : exec i op delivery w = some (reply, w')) :
    SessionGuar i w w' where
  log := by
    rw [exec_log hexec]
    exact List.prefix_append _ _
  changes _ := changes_of_ne hexec
  writes _ hj _ := writes_of_ne hexec hj
  memories _ hj _ := h.memories_iff hexec hj
  conversations _ hj _ := h.conversations_iff hexec hj

/-- The locks that a statement has taken. -/
theorem Executed.writes {stmt : Sql} {changes : List Change} (h : Executed i stmt w w' changes)
    {key : LockKey} {mode : LockMode} (hlock : (key, mode) ∈ (w.effect i stmt).locks)
    (hmode : mode ≠ .keyShare) : w'.server.Writes i key := by
  refine ⟨⟨i, key, mode⟩, ?_, rfl, rfl, hmode⟩
  rw [h.locks_eq]
  exact List.mem_append_right _ (List.mem_map.mpr ⟨_, hlock, rfl⟩)

omit [DecidableEq ι] in
/-- A session is closed after its body. -/
theorem outline_closing {Choice W : Type} {S : Rely ι PyError Op Op.Reply Choice W} {α : Type}
    {P : W → Prop} {body : Action α} {Q Q' : Except PyError α → W → Prop}
    (h : Outline S i P body Q)
    (hrollback : ∀ r, Outline S i (Q r) (send .rollback) (fun _ => Q' r)) :
    Outline S i P (inSession body) Q' := by
  have hattempt : Outline S i P body.attempt
      (fun r w => match r with
        | .ok result => Q result w
        | .error _ => False) :=
    h.attempt (fun _ _ _ hQ => hQ)
  refine hattempt.bind (fun result => ?_) (fun _ _ _ h => False.elim h)
  have hclosed : Outline S i (Q result) (send .rollback).attempt
      (fun r w => match r with
        | .ok _ => Q' result w
        | .error _ => False) :=
    (hrollback result).attempt (fun _ _ _ hQ => hQ)
  refine hclosed.bind (fun _ => ?_) (fun _ _ _ h => False.elim h)
  exact Outline.ofExcept (fun _ _ hQ => hQ)

end

end HotAirBalloon.Memory
