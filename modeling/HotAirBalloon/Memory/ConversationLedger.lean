import HotAirBalloon.Memory.Erasure
import HotAirBalloon.Memory.TurnHistory

/-!
# The turns that a conversation counts

Which turns were committed to a conversation since its row was created, and which sessions have
changed a conversation or a turn, is a ledger that runs beside the tables.

What a session sees of a conversation is `Ahead` of what is committed: its counter by the turns that
the session has added and by those that it still owes, its `last_turn_at` by the times of these
turns. No statement leaves a turn without its conversation (`referenced_of_outcome`).
-/

namespace HotAirBalloon.Memory

open Python Library

/-! ## The ledger -/

/-- The turns of a conversation that the second tables have and the first have not. -/
def newTurns (k : Uuid) (t t' : Tables) : List ConversationTurnRecord :=
  t'.turns.rows.filter (fun turn => turn.conversationId = k ∧ turn.id ∉ turnIds k t)

/-- A world, the turns that were committed to each conversation since its row was created, and
whether a session has changed a conversation or a turn. -/
structure Ledger (σ : Type) where
  world : World σ
  appended : Uuid → List ConversationTurnRecord
  changed : σ → Bool

/-- A conversation that is not there before a step begins without turns. -/
def appendedAfter (appended : Uuid → List ConversationTurnRecord) (t t' : Tables) :
    Uuid → List ConversationTurnRecord := fun k =>
  (if (t.conversations.find? k).isSome then appended k else []) ++ newTurns k t t'

/-- The conversations and the turns are the same. -/
def sameRows (t t' : Tables) : Bool :=
  t.conversations.rows = t'.conversations.rows ∧ t.turns.rows = t'.turns.rows

namespace Ledger

variable {σ : Type} [DecidableEq σ] (h : Ledger σ)

/-- The committed tables. -/
def tables : Tables := h.world.server.committed

def after (i : σ) (w : World σ) : Ledger σ where
  world := w
  appended := appendedAfter h.appended h.tables w.server.committed
  changed := if sameRows h.tables w.server.committed then h.changed
    else Function.update h.changed i true

/-- The empty tables. -/
def start (index : VectorIndex) : Ledger σ := ⟨.idle .empty index, fun _ => [], fun _ => false⟩

end Ledger

/-- Calls that keep the ledger beside the world. -/
def ledgerExec {σ : Type} [DecidableEq σ] :
    Exec σ PyError Op Op.Reply Delivery (Ledger σ) := fun i op delivery h =>
  (exec i op delivery h.world).map fun (reply, w) => (reply, h.after i w)

/-- A turn expires a number of days after it was created. -/
def ConversationStore.Expires (store : ConversationStore) (turn : ConversationTurnRecord) : Prop :=
  turn.expiresAt = some (turn.createdAt + DateTime.days store.retentionDays)

/-- Every turn has its conversation. -/
def Referenced (t : Tables) : Prop :=
  ∀ turn ∈ t.turns, ∃ row ∈ t.conversations, row.ownerKey = turn.ownerKey

/-- What the committed rows say of the turns that were committed. -/
structure CountersExact (store : ConversationStore) {σ : Type} (h : Ledger σ) : Prop where
  counted : ∀ row ∈ h.tables.conversations, row.turnCount = (h.appended row.id).length
  touched : ∀ row ∈ h.tables.conversations, ∀ turn ∈ h.appended row.id,
    turn.createdAt ≤ row.lastTurnAt
  referenced : Referenced h.tables
  stored : ∀ turn ∈ h.tables.turns, turn ∈ h.appended turn.conversationId
  expires : ∀ turn ∈ h.tables.turns, store.Expires turn

section

variable {t t' v : Tables} {k : Uuid} {turn : ConversationTurnRecord}

theorem mem_newTurns : turn ∈ newTurns k t t' ↔
    turn ∈ t'.turns ∧ turn.conversationId = k ∧ turn.id ∉ turnIds k t := by
  unfold newTurns
  rw [List.mem_filter, decide_eq_true_iff]
  exact Iff.rfl

theorem nodup_newTurns (k : Uuid) (t t' : Tables) : (newTurns k t t').Nodup :=
  (List.Nodup.of_map _ t'.turns.keys_nodup).filter _

/-- Turns that are all there before are not new. -/
theorem newTurns_eq_nil (h : ∀ turn ∈ t'.turns, turn.conversationId = k → turn ∈ t.turns) :
    newTurns k t t' = [] := by
  rw [List.eq_nil_iff_forall_not_mem]
  intro turn hturn
  obtain ⟨hmem, hconversation, hnew⟩ := mem_newTurns.mp hturn
  exact hnew (mem_turnIds.mpr ⟨turn, h turn hmem hconversation, hconversation, rfl⟩)

theorem appendedAfter_self {appended : Uuid → List ConversationTurnRecord}
    {row : AssistantConversationRecord} (h : row ∈ t.conversations) :
    appendedAfter appended t t row.id = appended row.id := by
  unfold appendedAfter
  rw [Table.find?_eq_some_iff.mpr ⟨h, rfl⟩, newTurns_eq_nil (fun turn hturn _ => hturn)]
  exact List.append_nil _

end

/-! ## What a session sees -/

/-- What a session sees of a conversation when it has counted the turns that it has added, and some
that it still owes. -/
structure Ahead (k : Uuid) (owed : Int) (t v : Tables) : Prop where
  counted : ∀ row ∈ v.conversations, row.id = k →
    row.turnCount = turnCountOf k t + (newTurns k t v).length + owed
  touched : ∀ row ∈ v.conversations, row.id = k → ∀ turn ∈ newTurns k t v,
    turn.createdAt ≤ row.lastTurnAt
  later : ∀ row ∈ v.conversations, row.id = k → ∀ old ∈ t.conversations, old.id = k →
    old.lastTurnAt ≤ row.lastTurnAt

section

variable {t t' v v' : Tables} {k : Uuid} {owed : Int}

/-- A session that has written no row of a conversation. -/
theorem Ahead.of_committed
    (hconversations : ∀ row ∈ v.conversations, row.id = k → row ∈ t.conversations)
    (hturns : ∀ turn ∈ v.turns, turn.conversationId = k → turn ∈ t.turns) : Ahead k 0 t v := by
  have hnone := newTurns_eq_nil hturns
  refine ⟨?_, ?_, ?_⟩
  · intro row hrow hid
    rw [hnone, ← hid, turnCountOf_eq (hconversations row hrow hid)]
    simp
  · intro row _ _ turn hturn
    rw [hnone] at hturn
    cases hturn
  · intro row hrow hid old hold hold'
    rw [Table.eq_of_key_eq hold (hconversations row hrow hid) (hold'.trans hid.symm)]

/-- The rows of the conversation are the same. -/
theorem Ahead.congr (h : Ahead k owed t v)
    (hcommitted : ∀ row, row.id = k → (row ∈ t'.conversations ↔ row ∈ t.conversations))
    (hconversations : ∀ row, row.id = k → (row ∈ v'.conversations ↔ row ∈ v.conversations))
    (hturns : (newTurns k t' v').Perm (newTurns k t v)) : Ahead k owed t' v' := by
  have hcount : turnCountOf k t' = turnCountOf k t := by
    unfold turnCountOf
    rw [Table.find?_congr hcommitted]
  refine ⟨?_, ?_, ?_⟩
  · intro row hrow hid
    rw [hcount, hturns.length_eq]
    exact h.counted row ((hconversations row hid).mp hrow) hid
  · intro row hrow hid turn hturn
    exact h.touched row ((hconversations row hid).mp hrow) hid turn (hturns.mem_iff.mp hturn)
  · intro row hrow hid old hold hold'
    exact h.later row ((hconversations row hid).mp hrow) hid old
      ((hcommitted old hold').mp hold) hold'

/-- The session sees the same turns, and the same row of the conversation. -/
theorem Ahead.of_turns_eq (h : Ahead k owed t v) (hturns : v'.turns = v.turns)
    (hconversations : ∀ row, row.id = k → (row ∈ v'.conversations ↔ row ∈ v.conversations)) :
    Ahead k owed t v' := by
  have hnew : newTurns k t v' = newTurns k t v := by
    unfold newTurns
    rw [hturns]
  exact h.congr (fun _ _ => Iff.rfl) hconversations (List.Perm.of_eq hnew)

/-- The row of the conversation is written again, and counts some turns more. -/
theorem Ahead.put {row : AssistantConversationRecord} (h : Ahead row.id owed t v)
    (row' : AssistantConversationRecord) {n : Int} (hrow : row ∈ v.conversations)
    (hid : row'.id = row.id)
    (hcount : row'.turnCount = row.turnCount + n) (hlater : row.lastTurnAt ≤ row'.lastTurnAt)
    (hconversations : v'.conversations = v.conversations.put row') (hturns : v'.turns = v.turns) :
    Ahead row.id (owed + n) t v' := by
  have hnew : newTurns row.id t v' = newTurns row.id t v := by
    unfold newTurns
    rw [hturns]
  have honly : ∀ found ∈ v'.conversations, found.id = row.id → found = row' := by
    intro found hfound hfoundId
    rw [hconversations] at hfound
    rcases Table.mem_put.mp hfound with heq | ⟨-, hne⟩
    · exact heq
    · exact absurd (hfoundId.trans hid.symm) hne
  refine ⟨?_, ?_, ?_⟩
  · intro found hfound hfoundId
    have hcounted := h.counted row hrow rfl
    rw [honly found hfound hfoundId, hnew]
    omega
  · intro found hfound hfoundId turn hturn
    rw [hnew] at hturn
    rw [honly found hfound hfoundId]
    exact (h.touched row hrow rfl turn hturn).trans hlater
  · intro found hfound hfoundId old hold holdId
    rw [honly found hfound hfoundId]
    exact (h.later row hrow rfl old hold holdId).trans hlater

/-- A turn that was owed is added. -/
theorem Ahead.insert {turn : ConversationTurnRecord} (h : Ahead turn.conversationId (owed + 1) t v)
    (hnew : ∀ old ∈ v.turns, old.id ≠ turn.id) (hfresh : turn.id ∉ turnIds turn.conversationId t)
    (htouched : ∀ row ∈ v.conversations, row.id = turn.conversationId →
      turn.createdAt ≤ row.lastTurnAt)
    (hconversations : v'.conversations = v.conversations) (hturns : v'.turns = v.turns.put turn) :
    Ahead turn.conversationId owed t v' := by
  have hadded : newTurns turn.conversationId t v' = newTurns turn.conversationId t v ++ [turn] := by
    unfold newTurns
    rw [hturns, Table.rows_put_of_find?_eq_none (Table.find?_eq_none_iff.mpr hnew),
      List.filter_append]
    congr 1
    exact List.filter_cons_of_pos (decide_eq_true ⟨rfl, hfresh⟩)
  refine ⟨?_, ?_, ?_⟩
  · intro row hrow hid
    rw [hconversations] at hrow
    have hcounted := h.counted row hrow hid
    rw [hadded, List.length_append, List.length_singleton]
    push_cast
    omega
  · intro row hrow hid added hmem
    rw [hconversations] at hrow
    rw [hadded] at hmem
    rcases List.mem_append.mp hmem with hold | hlast
    · exact h.touched row hrow hid added hold
    · rw [List.mem_singleton.mp hlast]
      exact htouched row hrow hid
  · rw [hconversations]
    exact h.later

end

/-! ## Turns keep their conversation -/

section

variable {stmt : Sql} {locked : LockKey → LockMode → Bool} {t : Tables} {a : stmt.Reply}
  {changes : List Change}

/-- Only a deletion of conversations removes one. -/
theorem conversation_kept (h : (stmt.effect locked t).outcome = .ok (a, changes))
    (hkeeps : ∀ ids, stmt ≠ .deleteConversations ids) {row : AssistantConversationRecord}
    (hrow : row ∈ t.conversations) :
    ∃ row' ∈ (afterChanges changes t).conversations, row'.ownerKey = row.ownerKey := by
  rw [conversations_applyAll]
  have hedits : ∀ edit ∈ changes.filterMap Change.conversation?, ConversationEdit t stmt edit :=
    fun edit hedit => (conversationEdit h ((mem_filterMap_conversation? _).mp hedit)).1
  have hputs : ∀ edit ∈ changes.filterMap Change.conversation?, ∃ row, edit = .put row := by
    intro edit hedit
    cases hedits edit hedit with
    | claimNew absent => exact ⟨_, rfl⟩
    | update mem id_eq owner_eq => exact ⟨_, rfl⟩
    | delete mem listed => exact absurd rfl (hkeeps _)
  obtain ⟨row', hrow', hid⟩ := Table.exists_key_of_puts hputs ⟨row, hrow, rfl⟩
  refine ⟨row', hrow', Prod.ext hid ?_⟩
  rcases Table.put_or_mem hrow' with hput | hold
  · cases hedits _ hput with
    | claimNew absent => exact absurd hid.symm (absent row hrow)
    | update mem id_eq owner_eq =>
      rw [Table.eq_of_key_eq hrow mem (hid.symm.trans id_eq)]
      exact owner_eq
  · rw [Table.eq_of_key_eq hold hrow hid]

theorem hasConversation_of_insertTurn {row : ConversationTurnRecord} {a : Nat}
    (h : (insertTurn row t).outcome = .ok (a, changes)) :
    ∃ conversation ∈ t.conversations, conversation.ownerKey = row.ownerKey := by
  unfold insertTurn at h
  dsimp only at h
  have hinserted := changes_ite h
  by_cases hparent : hasConversation row.ownerKey t = true
  · obtain ⟨conversation, hmem, hkey⟩ := List.any_eq_true.mp hparent
    exact ⟨conversation, hmem, of_decide_eq_true hkey⟩
  · rw [if_pos (by simpa using hparent)] at hinserted
    cases hinserted

/-- A statement leaves no turn without its conversation. -/
theorem referenced_of_outcome (h : (stmt.effect locked t).outcome = .ok (a, changes))
    (href : Referenced t) : Referenced (afterChanges changes t) := by
  by_cases hdeletes : ∃ ids, stmt = .deleteConversations ids
  · obtain ⟨ids, rfl⟩ := hdeletes
    obtain ⟨n, changes', houtcome, hafter, -⟩ := deleteConversations_alone ids t
    cases h.symm.trans houtcome
    have hafter' : afterChanges changes t = t.withoutConversations ids := hafter
    rw [hafter']
    intro turn hturn
    obtain ⟨hmem, hkept⟩ := Table.mem_filter.mp hturn
    obtain ⟨row, hrow, hkey⟩ := href turn hmem
    refine ⟨row, Table.mem_filter.mpr ⟨hrow, ?_⟩, hkey⟩
    rw [Bool.not_eq_true', decide_eq_false_iff_not] at hkept ⊢
    intro hlisted
    apply hkept
    rw [← hkey]
    exact List.mem_map_of_mem (List.mem_filter.mpr ⟨hrow, decide_eq_true hlisted⟩)
  · have hkeeps : ∀ ids, stmt ≠ .deleteConversations ids := fun ids heq => hdeletes ⟨ids, heq⟩
    intro turn hturn
    have hparent : ∃ row ∈ t.conversations, row.ownerKey = turn.ownerKey := by
      rw [turns_applyAll] at hturn
      rcases Table.put_or_mem hturn with hput | hold
      · cases turnEdit h ((mem_filterMap_turn? _).mp hput) with
        | insert => exact hasConversation_of_insertTurn h
        | expiry mem =>
          have hparent := href _ mem
          exact hparent
      · exact href turn hold
    obtain ⟨row, hrow, hkey⟩ := hparent
    obtain ⟨row', hrow', hkey'⟩ := conversation_kept h hkeeps hrow
    exact ⟨row', hrow', hkey'.trans hkey⟩

end

end HotAirBalloon.Memory
