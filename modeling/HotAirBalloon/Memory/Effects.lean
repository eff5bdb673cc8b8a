import HotAirBalloon.Memory.Statements

/-!
# What one call can do

`server_cases` says what a call of a process does to the server, and the lemmas after it say which
rows a statement writes and which locks it takes for them. Proofs about runs use these and never
unfold a statement.
-/

namespace HotAirBalloon.Memory

open Python Library

/-! ## Calls -/

section

variable {ι : Type} [DecidableEq ι] {i : ι} {op : Op} {delivery : Delivery}
  {reply : Except PyError op.Reply} {w w' : World ι}

/-- What the session of a process sees. -/
def World.visible (w : World ι) (i : ι) : Tables := w.server.visible Change.apply i

/-- The effect of a statement in the session of a process. -/
def World.effect (w : World ι) (i : ι) (stmt : Sql) : StatementEffect stmt.Reply :=
  stmt.effect (w.server.lockedByOther i) (w.visible i)

theorem carryOut_log {r : Except PyError op.Reply} (h : carryOut i op w = some (r, w')) :
    w'.log = w.log := by
  cases op with
  | sql stmt =>
    obtain ⟨⟨reply, server⟩, -, heq⟩ := Option.map_eq_some_iff.mp h
    cases heq
    rfl
  | _ =>
    cases h
    rfl

/-- A call is logged; it did nothing, or it was carried out, and an answer that says so is the
answer to it. -/
theorem exec_cases (h : exec i op delivery w = some (reply, w')) :
    w'.log = w.log ++ [(i, ⟨op, reply⟩)] ∧
    ((w'.server = w.server ∧ w'.index = w.index ∧ ∃ e, reply = .error e) ∨
    ∃ r w₀, carryOut i op w = some (r, w₀) ∧ w'.server = w₀.server ∧ w'.index = w₀.index ∧
      (reply = r ∨ ∃ e, reply = .error e)) := by
  obtain ⟨⟨r', w₀⟩, hdeliver, heq⟩ := Option.map_eq_some_iff.mp h
  cases heq
  have hcases : (w₀ = w ∧ ∃ e, reply = .error e) ∨
      ∃ r, carryOut i op w = some (r, w₀) ∧ (reply = r ∨ ∃ e, reply = .error e) := by
    cases delivery with
    | arrives => exact .inr ⟨reply, hdeliver, .inl rfl⟩
    | lost e =>
      unfold deliver at hdeliver
      dsimp only at hdeliver
      split at hdeliver
      · exact .inr ⟨reply, hdeliver, .inl rfl⟩
      · cases hdeliver
        exact .inl ⟨rfl, e, rfl⟩
    | late e =>
      unfold deliver at hdeliver
      dsimp only at hdeliver
      split at hdeliver
      · exact .inr ⟨reply, hdeliver, .inl rfl⟩
      · obtain ⟨⟨r, w₁⟩, hcarry, heq⟩ := Option.map_eq_some_iff.mp hdeliver
        cases heq
        exact .inr ⟨r, hcarry, .inr ⟨e, rfl⟩⟩
  rcases hcases with ⟨rfl, herror⟩ | ⟨r, hcarry, hreply⟩
  · exact ⟨rfl, .inl ⟨rfl, rfl, herror⟩⟩
  · exact ⟨by rw [carryOut_log hcarry], .inr ⟨r, w₀, hcarry, rfl, rfl, hreply⟩⟩

/-- The log only grows. -/
theorem exec_log (h : exec i op delivery w = some (reply, w')) :
    w'.log = w.log ++ [(i, ⟨op, reply⟩)] :=
  (exec_cases h).1

/-- A statement that took effect in a session. -/
structure Executed (i : ι) (stmt : Sql) (w w' : World ι) (changes : List Change) : Prop where
  free : ∀ lock ∈ (w.effect i stmt).locks, w.server.lockedByOther i lock.1 lock.2 = false
  outcome : ∃ a, (w.effect i stmt).outcome = .ok (a, changes)
  statement : ∃ r, w.server.statement Change.apply i stmt.effect = some (r, w'.server)
  committed : w'.server.committed = w.server.committed
  changes_eq : w'.server.changes =
    Function.update w.server.changes i (w.server.changes i ++ changes)
  locks_eq : w'.server.locks = w.server.locks ++
    (w.effect i stmt).locks.map (fun lock => ⟨i, lock.1, lock.2⟩)

/-- No session loses a lock by a statement. -/
theorem Executed.keeps_writes {stmt : Sql} {changes : List Change}
    (h : Executed i stmt w w' changes)
    {j : ι} {key : LockKey} (hwrites : w.server.Writes j key) : w'.server.Writes j key := by
  refine hwrites.of_subset ?_
  intro lock hlock _
  rw [h.locks_eq]
  exact List.mem_append_left _ hlock

/-- The locks of another session outlive the end of this one. -/
theorem writes_release {j : ι} {key : LockKey} (h : w.server.Writes j key) (hj : j ≠ i)
    (hlocks : w'.server.locks = w.server.release i) : w'.server.Writes j key := by
  refine h.of_subset ?_
  intro lock hlock hsession
  rw [hlocks, Server.mem_release, hsession]
  exact ⟨hlock, hj⟩

/-- What a call does to the server. -/
theorem server_cases (h : exec i op delivery w = some (reply, w')) :
    w'.server = w.server ∨ (∃ stmt changes, op = .sql stmt ∧ Executed i stmt w w' changes) ∨
    (op = .commit ∧ w'.server = w.server.commit Change.apply i) ∨
    (op = .rollback ∧ w'.server = w.server.rollback i) := by
  obtain ⟨-, ⟨hserver, -⟩ | ⟨r, w₀, hcarry, hserver, -, -⟩⟩ := exec_cases h
  · exact .inl hserver
  · cases op with
    | sql stmt =>
      obtain ⟨⟨r', server⟩, hstatement, heq⟩ := Option.map_eq_some_iff.mp hcarry
      cases heq
      obtain ⟨hfree, ⟨e, -, -, hsame⟩ | ⟨a, changes, houtcome, -, hcommitted, hchanges, hlocks⟩⟩ :=
        Server.statement_cases hstatement
      · exact .inl (hserver.trans hsame)
      · refine .inr (.inl ⟨stmt, changes, rfl, ⟨hfree, ⟨a, houtcome⟩, ⟨r, ?_⟩, ?_, ?_, ?_⟩⟩)
        · rw [hserver]
          exact hstatement
        · rw [hserver]
          exact hcommitted
        · rw [hserver]
          exact hchanges
        · rw [hserver]
          exact hlocks
    | commit =>
      cases hcarry
      exact .inr (.inr (.inl ⟨rfl, hserver⟩))
    | rollback =>
      cases hcarry
      exact .inr (.inr (.inr ⟨rfl, hserver⟩))
    | _ =>
      cases hcarry
      exact .inl hserver

/-- A call of one session keeps the changes of every other. -/
theorem changes_of_ne (h : exec i op delivery w = some (reply, w')) {j : ι} (hj : j ≠ i) :
    w'.server.changes j = w.server.changes j := by
  rcases server_cases h with hserver | ⟨stmt, changes, -, hexecuted⟩ | ⟨-, hserver⟩ | ⟨-, hserver⟩
  · rw [hserver]
  · rw [hexecuted.changes_eq, Function.update_of_ne hj]
  · rw [hserver]
    exact Function.update_of_ne hj _ _
  · rw [hserver]
    exact Function.update_of_ne hj _ _

/-- A reply of a statement is the outcome of its effect. -/
theorem outcome_of_reply {stmt : Sql} {a : stmt.Reply}
    (h : exec i (.sql stmt) delivery w = some (.ok a, w')) :
    ∃ changes, (w.effect i stmt).outcome = .ok (a, changes) := by
  obtain ⟨-, ⟨-, -, e, herror⟩ | ⟨r, w₀, hcarry, -, -, hreply⟩⟩ := exec_cases h
  · cases herror
  · obtain ⟨⟨r', server⟩, hstatement, heq⟩ := Option.map_eq_some_iff.mp hcarry
    cases heq
    obtain rfl : Except.ok a = r := by
      rcases hreply with heq | ⟨e, herror⟩
      · exact heq
      · cases herror
    obtain ⟨-, ⟨e, -, herror, -⟩ | ⟨a', changes, houtcome, hok, -⟩⟩ :=
      Server.statement_cases hstatement
    · cases herror
    · cases hok
      exact ⟨changes, houtcome⟩

/-- A statement that returns has taken effect, with the changes of its outcome. -/
theorem executed_of_ok {stmt : Sql} {a : stmt.Reply}
    (h : exec i (.sql stmt) delivery w = some (.ok a, w')) :
    ∃ changes, (w.effect i stmt).outcome = .ok (a, changes) ∧ Executed i stmt w w' changes := by
  obtain ⟨-, ⟨-, -, e, herror⟩ | ⟨r, w₀, hcarry, hserver, -, hreply⟩⟩ := exec_cases h
  · cases herror
  · obtain ⟨⟨r', server⟩, hstatement, heq⟩ := Option.map_eq_some_iff.mp hcarry
    cases heq
    obtain rfl : Except.ok a = r := by
      rcases hreply with heq | ⟨e, herror⟩
      · exact heq
      · cases herror
    obtain ⟨hfree,
      ⟨e, -, herror, -⟩ | ⟨a', changes, houtcome, hok, hcommitted, hchanges, hlocks⟩⟩ :=
      Server.statement_cases hstatement
    · cases herror
    · cases hok
      refine ⟨changes, houtcome, hfree, ⟨a, houtcome⟩, ⟨.ok a, ?_⟩, ?_, ?_, ?_⟩ <;> rw [hserver]
      · exact hstatement
      · exact hcommitted
      · exact hchanges
      · exact hlocks

theorem server_of_commit_ok (h : exec i .commit delivery w = some (.ok (), w')) :
    w'.server = w.server.commit Change.apply i := by
  obtain ⟨-, ⟨-, -, e, herror⟩ | ⟨r, w₀, hcarry, hserver, -, -⟩⟩ := exec_cases h
  · cases herror
  · cases hcarry
    exact hserver

/-- A rollback happens also when its reply is lost. -/
theorem server_of_rollback {reply : Except PyError Unit}
    (h : exec i .rollback delivery w = some (reply, w')) : w'.server = w.server.rollback i := by
  cases delivery <;> cases h <;> rfl

/-- A statement that changes no row leaves the rows and the sessions' changes as they are. -/
theorem unchanged_of_outcome {stmt : Sql} {a : stmt.Reply} {reply : Except PyError stmt.Reply}
    (h : exec i (.sql stmt) delivery w = some (reply, w'))
    (houtcome : (w.effect i stmt).outcome = .ok (a, [])) :
    w'.server.committed = w.server.committed ∧ w'.server.changes = w.server.changes ∧
      (reply = .ok a ∨ ∃ e, reply = .error e) := by
  obtain ⟨-, ⟨hserver, -, herror⟩ | ⟨r, w₀, hcarry, hserver, -, hreply⟩⟩ := exec_cases h
  · rw [hserver]
    exact ⟨rfl, rfl, .inr herror⟩
  · obtain ⟨⟨r', server⟩, hstatement, heq⟩ := Option.map_eq_some_iff.mp hcarry
    cases heq
    obtain ⟨-, ⟨e, herror, -⟩ | ⟨a', changes, hok, rfl, hcommitted, hchanges, -⟩⟩ :=
      Server.statement_cases hstatement
    · cases houtcome.symm.trans herror
    · cases houtcome.symm.trans hok
      rw [hserver]
      refine ⟨hcommitted, ?_, hreply⟩
      rw [hchanges, List.append_nil, Function.update_eq_self]

omit [DecidableEq ι] in
/-- A session that has changed nothing sees what is committed. -/
theorem visible_of_nil (h : w.server.changes i = []) : w.visible i = w.server.committed := by
  unfold World.visible Server.visible
  rw [h]
  rfl

end

/-! ## Which rows a statement writes -/

/-- A statement that only reads changes nothing. -/
theorem changes_readEffect {α : Type} {a a' : α} {changes : List Change}
    (h : (readEffect a).outcome = .ok (a', changes)) : changes = [] := by
  cases h
  rfl

theorem changes_writeEffect {α : Type} {locks : List (LockKey × LockMode)} {a a' : α}
    {changes changes' : List Change}
    (h : (writeEffect locks a changes).outcome = .ok (a', changes')) : changes' = changes := by
  cases h
  rfl

/-- The kinds of rows that a statement may write. -/
inductive RowKind where
  | conversation
  | turn
  | evidence
  | memory
  | candidate
  deriving DecidableEq

def Change.kind : Change → RowKind
  | conversation _ => .conversation
  | turn _ => .turn
  | evidence _ => .evidence
  | memory _ => .memory
  | candidate _ => .candidate

def Sql.writes : Sql → List RowKind
  | claimConversation .. | advanceConversation .. | closeConversation .. | markConsolidated .. =>
    [.conversation]
  | deleteConversations .. => [.conversation, .turn, .evidence]
  | insertTurn .. | updateTurnExpiry .. | deleteTurns .. => [.turn]
  | insertEvidence .. | deleteEvidence .. => [.evidence]
  | insertMemory .. | updateSourceTurnIds .. | markSynced .. | recordSyncError .. | markDeleted ..
  | deleteMemories .. => [.memory]
  | insertCandidate .. | setPromotedRecord .. | deleteCandidate .. => [.candidate]
  | _ => []

theorem changes_updateConversation {c u : Uuid} {set} {t : Tables} {a} {changes : List Change}
    (h : (updateConversation c u set t).outcome = .ok (a, changes)) :
    changes = [] ∨ ∃ row ∈ t.conversations, row.id = c ∧ row.ownerUserId = u ∧
      changes = [.conversation (.put (set row))] ∧
      (updateConversation c u set t).locks = [(.conversation c, .noKeyUpdate)] := by
  unfold updateConversation at h ⊢
  cases hrow : ownedConversation c u t with
  | none =>
    rw [hrow] at h
    exact .inl (changes_readEffect h)
  | some row =>
    rw [hrow] at h
    refine .inr ⟨row, ?_, ?_, ?_, changes_writeEffect h, rfl⟩
    all_goals
      obtain ⟨hfind, howner⟩ := Option.filter_eq_some_iff.mp hrow
      obtain ⟨hmem, hid⟩ := Table.find?_eq_some_iff.mp hfind
      first | exact hmem | exact hid | simpa using howner

theorem changes_markConsolidated {id : Uuid} {consolidatedAt : DateTime} {t : Tables} {a}
    {changes : List Change}
    (h : (markConsolidated id consolidatedAt t).outcome = .ok (a, changes)) :
    changes = [] ∨ ∃ row ∈ t.conversations, row.id = id ∧
      changes = [.conversation (.put { row with consolidatedAt := some consolidatedAt })] ∧
      (markConsolidated id consolidatedAt t).locks = [(.conversation id, .noKeyUpdate)] := by
  unfold markConsolidated at h ⊢
  cases hrow : t.conversations.find? id with
  | none =>
    rw [hrow] at h
    exact .inl (changes_readEffect h)
  | some row =>
    rw [hrow] at h
    obtain ⟨hmem, hid⟩ := Table.find?_eq_some_iff.mp hrow
    exact .inr ⟨row, hmem, hid, changes_writeEffect h, rfl⟩

theorem changes_updateMemory {id : Uuid} {set} {t : Tables} {a} {changes : List Change}
    (h : (updateMemory id set t).outcome = .ok (a, changes)) :
    changes = [] ∨ ∃ row ∈ t.memories, row.id = id ∧ changes = [.memory (.put (set row))] ∧
      (updateMemory id set t).locks = [(.memory id, .noKeyUpdate)] := by
  unfold updateMemory at h ⊢
  cases hrow : t.memories.find? id with
  | none =>
    rw [hrow] at h
    exact .inl (changes_readEffect h)
  | some row =>
    rw [hrow] at h
    obtain ⟨hmem, hid⟩ := Table.find?_eq_some_iff.mp hrow
    exact .inr ⟨row, hmem, hid, changes_writeEffect h, rfl⟩

/-- The outcome of a guarded write. -/
theorem changes_ite {α : Type} {p : Prop} [Decidable p] {e : PyError}
    {x : Except PyError (α × List Change)} {a : α} {changes : List Change}
    (h : (if p then .error e else x) = .ok (a, changes)) : x = .ok (a, changes) := by
  by_cases hp : p
  · rw [if_pos hp] at h
    cases h
  · rwa [if_neg hp] at h

/-- Evidence is inserted only when its tool name fits the column. -/
theorem outcome_insertEvidence {row : ConversationEvidenceRecord} {t : Tables} {a : Nat}
    {changes : List Change} (h : (insertEvidence row t).outcome = .ok (a, changes)) :
    row.fits = true ∧ changes = [.evidence (.put row)] := by
  have hinserted := changes_ite h
  cases changes_ite (changes_ite (changes_ite hinserted))
  refine ⟨?_, rfl⟩
  by_contra hfits
  unfold insertEvidence at h
  rw [Bool.not_eq_true] at hfits
  simp [hfits] at h

/-- A statement writes rows of its own kinds only. -/
theorem kind_mem_writes {stmt : Sql} {locked : LockKey → LockMode → Bool} {t : Tables}
    {a : stmt.Reply} {changes : List Change}
    (h : (stmt.effect locked t).outcome = .ok (a, changes)) :
    ∀ change ∈ changes, change.kind ∈ stmt.writes := by
  cases stmt with
  | claimConversation c u o =>
    unfold Sql.effect claimConversation at h
    dsimp only at h
    split at h
    · rw [changes_writeEffect h]
      simp [Change.kind, Sql.writes]
    · split at h <;> rw [changes_writeEffect h] <;> simp [Change.kind, Sql.writes]
  | advanceConversation c u o n | closeConversation c u o =>
    rcases changes_updateConversation h with rfl | ⟨row, -, -, -, rfl, -⟩ <;>
      simp [Change.kind, Sql.writes]
  | markConsolidated id at_ =>
    rcases changes_markConsolidated h with rfl | ⟨row, -, -, rfl, -⟩ <;>
      simp [Change.kind, Sql.writes]
  | deleteConversations ids =>
    rw [changes_writeEffect h]
    simp only [List.mem_append, List.mem_map]
    rintro change ((⟨row, -, rfl⟩ | ⟨row, -, rfl⟩) | ⟨row, -, rfl⟩) <;>
      simp [Change.kind, Sql.writes]
  | insertTurn row =>
    cases changes_ite (changes_ite h)
    simp [Change.kind, Sql.writes]
  | insertEvidence row =>
    rw [(outcome_insertEvidence h).2]
    simp [Change.kind, Sql.writes]
  | insertMemory row =>
    cases changes_ite (changes_ite (changes_ite h))
    simp [Change.kind, Sql.writes]
  | insertCandidate row =>
    cases changes_ite (changes_ite h)
    simp [Change.kind, Sql.writes]
  | updateTurnExpiry id e =>
    unfold Sql.effect updateTurnExpiry at h
    dsimp only at h
    split at h
    · simp [changes_readEffect h]
    · simp [changes_writeEffect h, Change.kind, Sql.writes]
  | deleteCandidate id =>
    unfold Sql.effect deleteCandidate at h
    dsimp only at h
    split at h
    · simp [changes_readEffect h]
    · simp [changes_writeEffect h, Change.kind, Sql.writes]
  | setPromotedRecord id m =>
    unfold Sql.effect setPromotedRecord at h
    dsimp only at h
    split at h
    · simp [changes_readEffect h]
    · cases changes_ite h
      simp [Change.kind, Sql.writes]
  | deleteTurns ids | deleteEvidence c u =>
    rw [changes_writeEffect h]
    simp only [List.mem_map]
    rintro change ⟨row, -, rfl⟩
    simp [Change.kind, Sql.writes]
  | deleteMemories ids =>
    cases changes_ite h
    simp only [List.mem_map]
    rintro change ⟨row, -, rfl⟩
    simp [Change.kind, Sql.writes]
  | updateSourceTurnIds id ids | markSynced id at_ | recordSyncError id n m | markDeleted id at_ =>
    rcases changes_updateMemory h with rfl | ⟨row, -, -, rfl, -⟩ <;> simp [Change.kind, Sql.writes]
  | selectIdleForUpdate c n => simp [changes_writeEffect h]
  | selectUserFactForUpdate u k s => simp [changes_writeEffect h]
  | selectUnsyncedForUpdate n => simp [changes_writeEffect h]
  | selectExpiredMemoriesForUpdate now n => simp [changes_writeEffect h]
  | selectDeletedMemoriesForUpdate n => simp [changes_writeEffect h]
  | selectExpiredCandidatesForUpdate now n => simp [changes_writeEffect h]
  | _ => simp [changes_readEffect h]

/-- What a statement may do to the conversations. -/
inductive ConversationEdit (t : Tables) : Sql → Edit AssistantConversationRecord.id → Prop
  | claimNew {row : AssistantConversationRecord} {observedAt : DateTime}
      (absent : ∀ row' ∈ t.conversations, row'.id ≠ row.id) :
      ConversationEdit t (.claimConversation row.id row.ownerUserId observedAt) (.put row)
  | update {stmt : Sql} {row row' : AssistantConversationRecord} (mem : row ∈ t.conversations)
      (id_eq : row'.id = row.id) (owner_eq : row'.ownerUserId = row.ownerUserId) :
      ConversationEdit t stmt (.put row')
  | delete {row : AssistantConversationRecord} {ids : List Uuid} (mem : row ∈ t.conversations)
      (listed : row.id ∈ ids) : ConversationEdit t (.deleteConversations ids) (.erase row.id)

/-- What a statement may do to the turns. -/
inductive TurnEdit (t : Tables) : Sql → Edit ConversationTurnRecord.id → Prop
  | insert (row : ConversationTurnRecord) : TurnEdit t (.insertTurn row) (.put row)
  | expiry {row : ConversationTurnRecord} {expiresAt : DateTime} (mem : row ∈ t.turns) :
      TurnEdit t (.updateTurnExpiry row.id expiresAt)
        (.put { row with expiresAt := some expiresAt })
  | delete {row : ConversationTurnRecord} {ids : List Uuid} (mem : row ∈ t.turns)
      (listed : row.id ∈ ids) : TurnEdit t (.deleteTurns ids) (.erase row.id)
  | cascade {row : ConversationTurnRecord} {ids : List Uuid} (mem : row ∈ t.turns)
      (listed : row.conversationId ∈ ids) : TurnEdit t (.deleteConversations ids) (.erase row.id)

section

variable {stmt : Sql} {locked : LockKey → LockMode → Bool} {t : Tables} {a : stmt.Reply}
  {changes : List Change}

theorem conversationEdit (h : (stmt.effect locked t).outcome = .ok (a, changes))
    {edit : Edit AssistantConversationRecord.id} (hmem : Change.conversation edit ∈ changes) :
    ConversationEdit t stmt edit ∧
      ∃ mode, (LockKey.conversation edit.target, mode) ∈ (stmt.effect locked t).locks ∧
        mode ≠ .keyShare := by
  have hkind : RowKind.conversation ∈ stmt.writes := kind_mem_writes h _ hmem
  cases stmt with
  | claimConversation c u o =>
    unfold Sql.effect claimConversation at h ⊢
    dsimp only at h ⊢
    split at h
    · rename_i hnone
      rw [changes_writeEffect h, List.mem_singleton] at hmem
      cases hmem
      refine ⟨?_, .forUpdate, ?_, by decide⟩
      · exact @ConversationEdit.claimNew t ⟨c, u, o, o, 0, none, none⟩ o
          (Table.find?_eq_none_iff.mp hnone)
      · simp [writeEffect, Edit.target]
    · rename_i row hsome
      obtain ⟨hrow, hid⟩ := Table.find?_eq_some_iff.mp hsome
      split at h
      · rename_i howner
        rw [changes_writeEffect h, List.mem_singleton] at hmem
        cases hmem
        refine ⟨.update hrow rfl rfl, .noKeyUpdate, ?_, by decide⟩
        simp [howner, writeEffect, Edit.target, hid]
      · rw [changes_writeEffect h] at hmem
        cases hmem
  | advanceConversation c u o n | closeConversation c u o =>
    rcases changes_updateConversation h with rfl | ⟨row, hrow, hid, howner, rfl, hlocks⟩
    · cases hmem
    · rw [List.mem_singleton] at hmem
      cases hmem
      refine ⟨.update hrow rfl rfl, .noKeyUpdate, ?_, by decide⟩
      unfold Sql.effect
      dsimp only
      rw [hlocks, List.mem_singleton]
      simp [Edit.target, advanced, hid]
  | markConsolidated id at_ =>
    rcases changes_markConsolidated h with rfl | ⟨row, hrow, hid, rfl, hlocks⟩
    · cases hmem
    · rw [List.mem_singleton] at hmem
      cases hmem
      refine ⟨.update hrow rfl rfl, .noKeyUpdate, ?_, by decide⟩
      unfold Sql.effect
      dsimp only
      rw [hlocks, List.mem_singleton]
      simp [Edit.target, hid]
  | deleteConversations ids =>
    rw [changes_writeEffect h] at hmem
    simp only [List.mem_append, List.mem_map, reduceCtorEq, and_false, exists_false,
      false_or] at hmem
    obtain ⟨row, hrow, heq⟩ := hmem
    cases heq
    obtain ⟨hmem, hlisted⟩ := List.mem_filter.mp hrow
    refine ⟨.delete hmem (by simpa using hlisted), .forUpdate, ?_, by decide⟩
    unfold Sql.effect deleteConversations writeEffect
    simp only [List.mem_append, List.mem_map]
    exact .inl (.inl ⟨row, hrow, rfl⟩)
  | _ => simp [Sql.writes] at hkind

theorem turnEdit (h : (stmt.effect locked t).outcome = .ok (a, changes))
    {edit : Edit ConversationTurnRecord.id} (hmem : Change.turn edit ∈ changes) :
    TurnEdit t stmt edit := by
  have hkind : RowKind.turn ∈ stmt.writes := kind_mem_writes h _ hmem
  cases stmt with
  | insertTurn row =>
    cases changes_ite (changes_ite h)
    cases List.mem_singleton.mp hmem
    exact .insert row
  | updateTurnExpiry id expiresAt =>
    unfold Sql.effect updateTurnExpiry at h
    dsimp only at h
    split at h
    · rw [changes_readEffect h] at hmem
      cases hmem
    · rename_i row hsome
      obtain ⟨hrow, rfl⟩ := Table.find?_eq_some_iff.mp hsome
      rw [changes_writeEffect h, List.mem_singleton] at hmem
      cases hmem
      exact .expiry hrow
  | deleteTurns ids =>
    rw [changes_writeEffect h] at hmem
    obtain ⟨row, hrow, heq⟩ := List.mem_map.mp hmem
    cases heq
    obtain ⟨hmem, hlisted⟩ := List.mem_filter.mp hrow
    exact .delete hmem (by simpa using hlisted)
  | deleteConversations ids =>
    rw [changes_writeEffect h] at hmem
    simp only [List.mem_append, List.mem_map, reduceCtorEq, and_false, exists_false,
      or_false] at hmem
    obtain ⟨row, hrow, heq⟩ := hmem
    cases heq
    obtain ⟨hmem, howned⟩ := List.mem_filter.mp hrow
    rw [decide_eq_true_eq] at howned
    obtain ⟨conversation, hconversation, hkey⟩ := howned
    have hid : conversation.id = row.conversationId := congrArg Prod.fst hkey
    refine .cascade hmem ?_
    rw [← hid]
    simpa using (List.mem_filter.mp hconversation).2
  | _ => simp [Sql.writes] at hkind

/-- Evidence rows are only written by their insert. -/
theorem evidencePut (h : (stmt.effect locked t).outcome = .ok (a, changes))
    {row : ConversationEvidenceRecord} (hmem : Change.evidence (.put row) ∈ changes) :
    stmt = .insertEvidence row := by
  have hkind : RowKind.evidence ∈ stmt.writes := kind_mem_writes h _ hmem
  cases stmt with
  | insertEvidence row =>
    rw [(outcome_insertEvidence h).2] at hmem
    cases List.mem_singleton.mp hmem
    rfl
  | deleteEvidence c u =>
    rw [changes_writeEffect h] at hmem
    simp at hmem
  | deleteConversations ids =>
    rw [changes_writeEffect h] at hmem
    simp at hmem
  | _ => simp [Sql.writes] at hkind

/-- A memory record is inserted when no record has its id, its vector or, as a user fact, its
content. -/
theorem outcome_insertMemory {row : AssistantMemoryRecord} {a : Nat}
    (h : (Memory.insertMemory row t).outcome = .ok (a, changes)) :
    changes = [.memory (.put row)] ∧ (∀ other ∈ t.memories, other.id ≠ row.id) ∧
      (∀ other ∈ t.memories, other.vectorId ≠ row.vectorId) ∧ duplicatesUserFact row t = false := by
  unfold insertMemory at h
  dsimp only at h
  split at h
  · cases h
  · rename_i hid
    split at h
    · cases h
    · rename_i hvector
      split at h
      · cases h
      · rename_i hfact
        cases h
        refine ⟨rfl, ?_, ?_, by simpa using hfact⟩
        · rw [Option.not_isSome_iff_eq_none] at hid
          exact Table.find?_eq_none_iff.mp hid
        · intro other hother heq
          apply hvector
          rw [List.any_eq_true]
          exact ⟨other, hother, decide_eq_true heq⟩

end

end HotAirBalloon.Memory
