import HotAirBalloon.Memory.Calls
import HotAirBalloon.Memory.Effects

/-!
# Ownership of conversations

The invariant of every interleaving of calls: a session that writes a conversation row holds its
lock, what it writes has the owner of the committed row, and every turn and evidence row was sent
by a call of its owner. A claim inserts a row only when the session sees none, and a session that
has not changed anything yet sees what is committed; that is why a claim comes first.
-/

namespace HotAirBalloon.Memory

open Python Library Evidence

variable {ι : Type}

/-! ## What calls append -/

/-- The call appends a turn to a conversation of an owner. -/
def Call.AppendsTurn (call : Call) (conversationId ownerUserId : Uuid) (turn : ConversationTurn) :
    Prop :=
  match call with
  | append conversationId' turn' ownerUserId' _ =>
    conversationId' = conversationId ∧ ownerUserId' = ownerUserId ∧ turn = turn'
  | appendCompletedExchange conversationId' ownerUserId' userTurn assistantTurn _ _ _ _ =>
    conversationId' = conversationId ∧ ownerUserId' = ownerUserId ∧
      (turn = userTurn ∨ turn = assistantTurn)
  | _ => False

/-- The call appends an evidence snapshot. -/
def Call.AppendsEvidence (call : Call) (snapshot : ConversationEvidenceSnapshot) : Prop :=
  match call with
  | appendCompletedExchange _ _ _ _ evidence _ _ _ => evidence = some snapshot
  | appendEvidence snapshot' _ => snapshot' = snapshot
  | _ => False

/-- The user who makes the call; the jobs have none. -/
def Call.user? : Call → Option Uuid
  | claimOrValidate _ ownerUserId _ | readRecent _ ownerUserId _ | append _ _ ownerUserId _
  | appendCompletedExchange _ ownerUserId _ _ _ _ _ _ | readRecentEvidence _ ownerUserId _ _
  | eraseEvidence _ ownerUserId | closeConversation _ ownerUserId _
  | eraseUserMemory ownerUserId => some ownerUserId
  | appendEvidence snapshot _ => some snapshot.ownerUserId
  | _ => none

/-- The evidence of an exchange carries the conversation and the owner of the call. -/
def Call.CarriesIds : Call → Prop
  | appendCompletedExchange conversationId ownerUserId _ _ evidence _ _ _ =>
    ∀ snapshot, evidence = some snapshot →
      snapshot.conversationId = conversationId ∧ snapshot.ownerUserId = ownerUserId
  | _ => True

theorem Call.user_of_appendsTurn {call : Call} {conversationId ownerUserId : Uuid}
    {turn : ConversationTurn} (h : call.AppendsTurn conversationId ownerUserId turn) :
    call.user? = some ownerUserId := by
  cases call with
  | append _ _ _ _ => exact congrArg some h.2.1
  | appendCompletedExchange _ _ _ _ _ _ _ _ => exact congrArg some h.2.1
  | _ => exact False.elim h

theorem Call.user_of_appendsEvidence {call : Call} {snapshot : ConversationEvidenceSnapshot}
    (hcarries : call.CarriesIds) (h : call.AppendsEvidence snapshot) :
    call.user? = some snapshot.ownerUserId := by
  cases call with
  | appendCompletedExchange _ _ _ _ _ _ _ _ => exact congrArg some (hcarries snapshot h).2.symm
  | appendEvidence _ _ =>
    cases h
    rfl
  | _ => exact False.elim h

/-- A call has sent a statement. -/
def Sent (log : List (ι × Event)) (i : ι) (stmt : Sql) : Prop :=
  ∃ reply, (i, ⟨.sql stmt, reply⟩) ∈ log

/-- The row's turn was sent by a call that appends it for the row's owner. -/
def TurnAppended (call : ι → Call) (log : List (ι × Event)) (row : ConversationTurnRecord) : Prop :=
  ∃ j row', Sent log j (.insertTurn row') ∧ row'.ownerKey = row.ownerKey ∧
    ConversationStore.turnOf row' = ConversationStore.turnOf row ∧
    (call j).AppendsTurn row.conversationId row.ownerUserId (ConversationStore.turnOf row)

/-- The row was sent by a call that appends its snapshot. -/
def EvidenceAppended (store : ConversationStore) (call : ι → Call) (log : List (ι × Event))
    (row : ConversationEvidenceRecord) : Prop :=
  ∃ j snapshot, Sent log j (.insertEvidence row) ∧ (call j).AppendsEvidence snapshot ∧
    store.evidenceRecord row.id snapshot = .ok row

section

variable {call : ι → Call} {log log' : List (ι × Event)}

theorem Sent.mono (hlog : log <+: log') {i : ι} {stmt : Sql} (h : Sent log i stmt) :
    Sent log' i stmt := by
  obtain ⟨reply, hmem⟩ := h
  exact ⟨reply, hlog.subset hmem⟩

theorem TurnAppended.mono (hlog : log <+: log') {row : ConversationTurnRecord}
    (h : TurnAppended call log row) : TurnAppended call log' row := by
  obtain ⟨j, row', hsent, hrest⟩ := h
  exact ⟨j, row', hsent.mono hlog, hrest⟩

theorem EvidenceAppended.mono {store : ConversationStore} (hlog : log <+: log')
    {row : ConversationEvidenceRecord} (h : EvidenceAppended store call log row) :
    EvidenceAppended store call log' row := by
  obtain ⟨j, snapshot, hsent, hrest⟩ := h
  exact ⟨j, snapshot, hsent.mono hlog, hrest⟩

end

/-! ## The invariant -/

structure OwnershipInv (store : ConversationStore) (call : ι → Call) (w : World ι) : Prop where
  exclusive : w.server.Exclusive
  writes : ∀ i edit, Change.conversation edit ∈ w.server.changes i →
    w.server.Writes i (.conversation edit.target)
  owners : ∀ i row, Change.conversation (.put row) ∈ w.server.changes i →
    ∀ row' ∈ w.server.committed.conversations, row'.id = row.id →
      row'.ownerUserId = row.ownerUserId
  turns : ∀ row ∈ w.server.committed.turns, TurnAppended call w.log row
  pendingTurns : ∀ i row, Change.turn (.put row) ∈ w.server.changes i → TurnAppended call w.log row
  evidence : ∀ row ∈ w.server.committed.evidence, EvidenceAppended store call w.log row
  pendingEvidence : ∀ i row, Change.evidence (.put row) ∈ w.server.changes i →
    EvidenceAppended store call w.log row

/-- No conversation has changed its owner. -/
def OwnersKept (w w' : World ι) : Prop :=
  ∀ row ∈ w.server.committed.conversations, ∀ row' ∈ w'.server.committed.conversations,
    row.id = row'.id → row.ownerUserId = row'.ownerUserId

/-- What a step may do: it keeps the owners, the log and the changes of the other sessions. -/
structure OwnershipGuar (i : ι) (w w' : World ι) : Prop where
  owners : OwnersKept w w'
  log : w.log <+: w'.log
  changes : ∀ j ≠ i, w'.server.changes j = w.server.changes j

/-- What a call must see to before it sends a statement. -/
def Admissible (store : ConversationStore) (call : ι → Call) (i : ι) (op : Op)
    (w : World ι) : Prop :=
  match op with
  | .sql (.claimConversation ..) => w.server.changes i = []
  | .sql (.insertTurn row) => (call i).AppendsTurn row.conversationId row.ownerUserId
      (ConversationStore.turnOf row)
  | .sql (.insertEvidence row) => ∃ snapshot, (call i).AppendsEvidence snapshot ∧
      store.evidenceRecord row.id snapshot = .ok row
  | _ => True

namespace OwnershipInv

variable {store : ConversationStore} {call : ι → Call} {w w' : World ι}

theorem start (index : VectorIndex) : OwnershipInv store call (World.idle .empty index) where
  exclusive := Server.exclusive_idle _
  writes _ _ h := absurd h List.not_mem_nil
  owners _ _ h := absurd h List.not_mem_nil
  turns row h := absurd h (Table.not_mem_empty row)
  pendingTurns _ _ h := absurd h List.not_mem_nil
  evidence row h := absurd h (Table.not_mem_empty row)
  pendingEvidence _ _ h := absurd h List.not_mem_nil

theorem visibleTurns (h : OwnershipInv store call w) (i : ι) :
    ∀ row ∈ (w.visible i).turns, TurnAppended call w.log row := by
  intro row hrow
  unfold World.visible Server.visible at hrow
  rw [turns_applyAll] at hrow
  rcases Table.put_or_mem hrow with hput | hmem
  · exact h.pendingTurns i row ((mem_filterMap_turn? _).mp hput)
  · exact h.turns row hmem

theorem visibleEvidence (h : OwnershipInv store call w) (i : ι) :
    ∀ row ∈ (w.visible i).evidence, EvidenceAppended store call w.log row := by
  intro row hrow
  unfold World.visible Server.visible at hrow
  rw [evidence_applyAll] at hrow
  rcases Table.put_or_mem hrow with hput | hmem
  · exact h.pendingEvidence i row ((mem_filterMap_evidence? _).mp hput)
  · exact h.evidence row hmem

/-- A conversation that a session sees has the owner of the committed row. -/
theorem visibleOwner (h : OwnershipInv store call w) (i : ι) {row : AssistantConversationRecord}
    (hrow : row ∈ (w.visible i).conversations) :
    ∀ row' ∈ w.server.committed.conversations, row'.id = row.id →
      row'.ownerUserId = row.ownerUserId := by
  intro row' hrow' hid
  unfold World.visible Server.visible at hrow
  rw [conversations_applyAll] at hrow
  rcases Table.put_or_mem hrow with hput | hmem
  · exact h.owners i row ((mem_filterMap_conversation? _).mp hput) row' hrow' hid
  · rw [Table.eq_of_key_eq hrow' hmem hid]

/-- The server is as it was. -/
theorem of_server_eq (h : OwnershipInv store call w) (hserver : w'.server = w.server)
    (hlog : w.log <+: w'.log) : OwnershipInv store call w' where
  exclusive := by
    rw [hserver]
    exact h.exclusive
  writes := by
    rw [hserver]
    exact h.writes
  owners := by
    rw [hserver]
    exact h.owners
  turns := by
    rw [hserver]
    exact fun row hrow => (h.turns row hrow).mono hlog
  pendingTurns := by
    rw [hserver]
    exact fun i row hrow => (h.pendingTurns i row hrow).mono hlog
  evidence := by
    rw [hserver]
    exact fun row hrow => (h.evidence row hrow).mono hlog
  pendingEvidence := by
    rw [hserver]
    exact fun i row hrow => (h.pendingEvidence i row hrow).mono hlog

variable [DecidableEq ι] {i : ι} {stmt : Sql} {changes : List Change}

/-- A statement of an admissible kind. -/
theorem of_executed (h : OwnershipInv store call w) (hexec : Memory.Executed i stmt w w' changes)
    (hadm : Admissible store call i (.sql stmt) w) (hlog : w.log <+: w'.log)
    (hsent : Sent w'.log i stmt) : OwnershipInv store call w' := by
  obtain ⟨a, houtcome⟩ := hexec.outcome
  have hold : ∀ j change, change ∈ w'.server.changes j →
      change ∈ w.server.changes j ∨ (j = i ∧ change ∈ changes) := by
    intro j change hmem
    rw [hexec.changes_eq] at hmem
    by_cases hj : j = i
    · subst hj
      rw [Function.update_self, List.mem_append] at hmem
      exact hmem.imp_right fun hnew => ⟨rfl, hnew⟩
    · rw [Function.update_of_ne hj] at hmem
      exact .inl hmem
  constructor
  · obtain ⟨r, hstatement⟩ := hexec.statement
    exact Server.exclusive_statement h.exclusive hstatement
  · intro j edit hmem
    rcases hold j _ hmem with hmem | ⟨rfl, hnew⟩
    · exact hexec.keeps_writes (h.writes j edit hmem)
    · obtain ⟨-, mode, hlock, hmode⟩ := conversationEdit houtcome hnew
      refine ⟨⟨j, .conversation edit.target, mode⟩, ?_, rfl, rfl, hmode⟩
      rw [hexec.locks_eq]
      exact List.mem_append_right _ (List.mem_map.mpr ⟨_, hlock, rfl⟩)
  · intro j row hmem row' hrow' hid
    rw [hexec.committed] at hrow'
    rcases hold j _ hmem with hmem | ⟨rfl, hnew⟩
    · exact h.owners j row hmem row' hrow' hid
    · -- the new row has the owner of the row it replaces, or replaces none
      obtain ⟨hedit, -⟩ := conversationEdit houtcome hnew
      cases hedit with
      | claimNew absent =>
        have hnil : w.server.changes j = [] := hadm
        rw [visible_of_nil hnil] at absent
        exact absurd hid (absent row' hrow')
      | update mem id_eq owner_eq =>
        rw [owner_eq]
        exact h.visibleOwner j mem row' hrow' (hid.trans id_eq)
  · rw [hexec.committed]
    exact fun row hrow => (h.turns row hrow).mono hlog
  · intro j row hmem
    rcases hold j _ hmem with hmem | ⟨rfl, hnew⟩
    · exact (h.pendingTurns j row hmem).mono hlog
    · have hedit := turnEdit houtcome hnew
      cases hedit with
      | insert => exact ⟨j, row, hsent, rfl, rfl, hadm⟩
      | expiry mem => exact (h.visibleTurns j _ mem).mono hlog
  · rw [hexec.committed]
    exact fun row hrow => (h.evidence row hrow).mono hlog
  · intro j row hmem
    rcases hold j _ hmem with hmem | ⟨rfl, hnew⟩
    · exact (h.pendingEvidence j row hmem).mono hlog
    · obtain rfl := evidencePut houtcome hnew
      obtain ⟨snapshot, happends, hrecord⟩ := hadm
      exact ⟨j, snapshot, hsent, happends, hrecord⟩

theorem of_commit (h : OwnershipInv store call w)
    (hserver : w'.server = w.server.commit Change.apply i) (hlog : w.log <+: w'.log) :
    OwnershipInv store call w' := by
  have hcommitted : w'.server.committed = w.visible i := by
    rw [hserver]
    rfl
  have hlocks : w'.server.locks = w.server.release i := by
    rw [hserver]
    rfl
  have hother : ∀ j change, change ∈ w'.server.changes j → j ≠ i ∧ change ∈ w.server.changes j := by
    intro j change hmem
    rw [hserver] at hmem
    by_cases hj : j = i
    · subst hj
      simp [Server.commit] at hmem
    · simp only [Server.commit, Function.update_of_ne hj] at hmem
      exact ⟨hj, hmem⟩
  constructor
  · exact Server.exclusive_release h.exclusive hlocks
  · intro j edit hmem
    obtain ⟨hj, hmem⟩ := hother j _ hmem
    exact writes_release (h.writes j edit hmem) hj hlocks
  · intro j row hmem row' hrow' hid
    obtain ⟨hj, hmem⟩ := hother j _ hmem
    rw [hcommitted] at hrow'
    unfold World.visible Server.visible at hrow'
    rw [conversations_applyAll] at hrow'
    rcases Table.put_or_mem hrow' with hput | hold
    · -- two sessions would write one conversation
      have hi := h.writes i _ ((mem_filterMap_conversation? _).mp hput)
      have hwrites := h.writes j _ hmem
      simp only [Edit.target] at hi hwrites
      rw [hid] at hi
      exact absurd (h.exclusive.eq_of_writes hwrites hi) hj
    · exact h.owners j row hmem row' hold hid
  · rw [hcommitted]
    exact fun row hrow => (h.visibleTurns i row hrow).mono hlog
  · intro j row hmem
    exact (h.pendingTurns j row (hother j _ hmem).2).mono hlog
  · rw [hcommitted]
    exact fun row hrow => (h.visibleEvidence i row hrow).mono hlog
  · intro j row hmem
    exact (h.pendingEvidence j row (hother j _ hmem).2).mono hlog

theorem of_rollback (h : OwnershipInv store call w) (hserver : w'.server = w.server.rollback i)
    (hlog : w.log <+: w'.log) : OwnershipInv store call w' := by
  have hcommitted : w'.server.committed = w.server.committed := by
    rw [hserver]
    rfl
  have hlocks : w'.server.locks = w.server.release i := by
    rw [hserver]
    rfl
  have hother : ∀ j change, change ∈ w'.server.changes j → j ≠ i ∧ change ∈ w.server.changes j := by
    intro j change hmem
    rw [hserver] at hmem
    by_cases hj : j = i
    · subst hj
      simp [Server.rollback] at hmem
    · simp only [Server.rollback, Function.update_of_ne hj] at hmem
      exact ⟨hj, hmem⟩
  constructor
  · exact Server.exclusive_release h.exclusive hlocks
  · intro j edit hmem
    obtain ⟨hj, hmem⟩ := hother j _ hmem
    exact writes_release (h.writes j edit hmem) hj hlocks
  · intro j row hmem
    rw [hcommitted]
    exact h.owners j row (hother j _ hmem).2
  · rw [hcommitted]
    exact fun row hrow => (h.turns row hrow).mono hlog
  · intro j row hmem
    exact (h.pendingTurns j row (hother j _ hmem).2).mono hlog
  · rw [hcommitted]
    exact fun row hrow => (h.evidence row hrow).mono hlog
  · intro j row hmem
    exact (h.pendingEvidence j row (hother j _ hmem).2).mono hlog

/-- Every admissible call keeps the invariant, the owners and the other sessions. -/
theorem of_exec (h : OwnershipInv store call w) {op : Op} (hadm : Admissible store call i op w)
    {delivery : Delivery} {reply : Except PyError op.Reply}
    (hexec : exec i op delivery w = some (reply, w')) :
    OwnershipInv store call w' ∧ OwnershipGuar i w w' := by
  have hlog := exec_log hexec
  have hprefix : w.log <+: w'.log := by
    rw [hlog]
    exact List.prefix_append _ _
  have hothers : ∀ j ≠ i, w'.server.changes j = w.server.changes j := fun _ => changes_of_ne hexec
  rcases server_cases hexec with hserver | ⟨stmt, changes, rfl, hstatement⟩ | ⟨-, hserver⟩ |
    ⟨-, hserver⟩
  · refine ⟨h.of_server_eq hserver hprefix, ⟨?_, hprefix, hothers⟩⟩
    intro row hrow row' hrow' hid
    rw [hserver] at hrow'
    rw [Table.eq_of_key_eq hrow hrow' hid]
  · have hsent : Sent w'.log i stmt := by
      refine ⟨reply, ?_⟩
      rw [hlog]
      simp
    refine ⟨h.of_executed hstatement hadm hprefix hsent, ⟨?_, hprefix, hothers⟩⟩
    intro row hrow row' hrow' hid
    rw [hstatement.committed] at hrow'
    rw [Table.eq_of_key_eq hrow hrow' hid]
  · refine ⟨h.of_commit hserver hprefix, ⟨?_, hprefix, hothers⟩⟩
    intro row hrow row' hrow' hid
    rw [hserver] at hrow'
    exact h.visibleOwner i hrow' row hrow hid
  · refine ⟨h.of_rollback hserver hprefix, ⟨?_, hprefix, hothers⟩⟩
    intro row hrow row' hrow' hid
    rw [hserver] at hrow'
    rw [Table.eq_of_key_eq hrow hrow' hid]

end OwnershipInv

end HotAirBalloon.Memory
