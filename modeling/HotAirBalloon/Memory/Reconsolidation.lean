import HotAirBalloon.Memory.Consolidation
import HotAirBalloon.Memory.Isolation
import HotAirBalloon.Memory.TurnHistory

/-!
# Turns that are consolidated

A conversation with a turn that was added after it was last consolidated should be selectable for
the worker. The store's updates set `closed_at` back when a turn is added, but not
`consolidated_at`: a conversation that goes on after it was consolidated is never selected again. In
a run that adds no turn to a consolidated conversation none escapes.
-/

namespace HotAirBalloon.Memory

open Python Library Evidence

/-! ## Calls -/

/-- A call of the conversation store or a run of the worker. -/
inductive ConversationCall where
  | claimOrValidate (conversationId ownerUserId : Uuid) (observedAtUtc : DateTime)
  | append (conversationId : Uuid) (turn : ConversationTurn) (ownerUserId turnId : Uuid)
  | appendCompletedExchange (conversationId ownerUserId : Uuid)
      (userTurn assistantTurn : ConversationTurn) (evidence : Option ConversationEvidenceSnapshot)
      (userTurnId assistantTurnId evidenceId : Uuid)
  | closeConversation (conversationId ownerUserId : Uuid) (now : DateTime)
  | consolidateOnce (draws : ConsolidationDraws)

def ConversationCall.program (store : ConversationStore) (worker : ConsolidationWorker) :
    ConversationCall → WorkerAction Unit
  | claimOrValidate conversationId ownerUserId observedAtUtc =>
    inMain (ConversationStore.claimOrValidate conversationId ownerUserId observedAtUtc)
  | append conversationId turn ownerUserId turnId =>
    inMain (store.append conversationId turn ownerUserId turnId)
  | appendCompletedExchange conversationId ownerUserId userTurn assistantTurn evidence userTurnId
      assistantTurnId evidenceId =>
    inMain (store.appendCompletedExchange conversationId ownerUserId userTurn assistantTurn evidence
      userTurnId assistantTurnId evidenceId)
  | closeConversation conversationId ownerUserId now =>
    inMain (store.closeConversation conversationId ownerUserId now)
  | consolidateOnce draws => do
    let _ ← worker.consolidateOnce draws

section

variable {ι : Type}

abbrev ConversationSystem (ι : Type) :=
  Config ι PyError WorkerOp WorkerOp.Reply (History (ι × Bool)) Unit

/-- The calls of a family on empty tables, none of which has started. -/
def ConversationSystem.start (store : ConversationStore) (worker : ConsolidationWorker)
    (call : ι → ConversationCall) : ConversationSystem ι :=
  ⟨⟨.idle .empty .empty, fun _ => ∅⟩, fun i => (call i).program store worker⟩

/-- A conversation of at least two turns, of which one was added after it was last consolidated, is
selected when it has been idle. -/
def NoTurnEscapes {σ : Type} (worker : ConsolidationWorker) (h : History σ) : Prop :=
  ∀ row ∈ h.tables.conversations, 2 ≤ (turnIds row.id h.tables).card →
    (∃ id ∈ turnIds row.id h.tables, id ∉ h.covered row.id) → ∀ now : DateTime,
      row.lastTurnAt ≤ now - ConsolidationWorker.minutes worker.idleMinutes →
        row ∈ idleConversations (now - ConsolidationWorker.minutes worker.idleMinutes) h.tables

theorem HistoryInv.covers {σ : Type} {h : History σ} (hinv : HistoryInv h)
    (worker : ConsolidationWorker) : NoTurnEscapes worker h := by
  intro row hrow htwo hnew now hidle
  obtain ⟨id, hid, huncovered⟩ := hnew
  have hopen : row.consolidatedAt = none := by
    by_contra hconsolidated
    rw [← consolidatedAtOf_eq hrow] at hconsolidated
    exact huncovered (hinv.seen row.id hconsolidated hid)
  have hcounted := hinv.counted row.id
  rw [turnCountOf_eq hrow] at hcounted
  have hcount : 2 ≤ row.turnCount := by omega
  unfold idleConversations
  rw [List.mem_insertionSort, List.mem_filter, decide_eq_true_eq]
  exact ⟨hrow, hopen, hidle, hcount⟩

/-! ## Rules -/

variable [DecidableEq ι]

/-- A commit of a process adds no turn to a conversation that is consolidated. -/
def keepsConsolidatedClosed (i : ι) (op : WorkerOp) (h : History (ι × Bool)) : Prop :=
  match op with
  | .main op => addsOnlyToOpen (i, false) op h = true
  | .nested op => addsOnlyToOpen (i, true) op h = true
  | _ => True

instance (i : ι) (op : WorkerOp) (h : History (ι × Bool)) :
    Decidable (keepsConsolidatedClosed i op h) := by
  unfold keepsConsolidatedClosed
  split <;> infer_instance

def turnRely (σ : Type) [DecidableEq σ] : Rely σ PyError Op Op.Reply Delivery (History σ) where
  exec := tracked exec
  cond i op h := addsOnlyToOpen i op h = true
  inv := HistoryInv
  guar := HistoryGuar

def conversationRely (outside : Outside ι) :
    Rely ι PyError WorkerOp WorkerOp.Reply Delivery (History (ι × Bool)) where
  exec := tracked (workerExec outside)
  cond := keepsConsolidatedClosed
  inv := HistoryInv
  guar i h h' := HistoryGuar (i, false) h h' ∨ HistoryGuar (i, true) h h'

end

section

variable {σ : Type} [DecidableEq σ] {i : σ} {α β : Type} {P : History σ → Prop} {op : Op}

theorem turnTriple {R : Except PyError op.Reply → History σ → Prop}
    (hready : ∀ h, HistoryInv h → P h → ReadyFor i op h.world)
    (hR : ∀ h delivery r w', HistoryInv h → P h → exec i op delivery h.world = some (r, w') →
      R r (h.after w')) : Triple (turnRely σ) i P op R := by
  intro h delivery r h' hinv hP hopen hexec
  obtain ⟨⟨r', w'⟩, hexec', heq⟩ := Option.map_eq_some_iff.mp hexec
  cases heq
  obtain ⟨hinv', hguar⟩ := hinv.of_exec (hready h hinv hP) hopen hexec'
  exact ⟨hinv', hguar, hR h delivery r w' hinv hP hexec'⟩

/-- Calls for which a session is always ready. -/
def AlwaysReady (op : Op) : Prop := ∀ (σ : Type) (i : σ) (w : World σ), ReadyFor i op w

theorem alwaysReady_of_onFacts (h : OnFacts op) : AlwaysReady op := by
  intro σ i w
  cases op with
  | sql stmt => cases stmt <;> trivial
  | _ => trivial

theorem outline_of_alwaysReady {p : Action α} (h : p.Calls AlwaysReady) :
    Outline (turnRely σ) i (fun _ => True) p (fun _ _ => True) := by
  refine Outline.of_calls ?_ h
  intro op hop
  exact turnTriple (fun h _ _ => hop σ i h.world) (fun _ _ _ _ _ _ _ => trivial)

/-- A call that is ready and of which nothing is asked. -/
theorem outline_send (hready : ∀ h, HistoryInv h → P h → ReadyFor i op h.world) :
    Outline (turnRely σ) i P (send op) (fun _ _ => True) :=
  Outline.perform (fun _ => stable_const True) (turnTriple hready (fun _ _ _ _ _ _ _ => trivial))

theorem outline_unit_session {body : Action α}
    (h : Outline (turnRely σ) i P body (fun _ _ => True)) :
    Outline (turnRely σ) i P (inSession body) (fun _ _ => True) :=
  outline_closing h (fun _ => outline_send (fun _ _ _ => trivial))

theorem outline_unit_transaction {body : Action α}
    (h : Outline (turnRely σ) i P body (fun _ _ => True)) :
    Outline (turnRely σ) i P (transaction body) (fun _ _ => True) := by
  refine outline_unit_session (h.bind (fun a => ?_) (fun _ _ _ _ => trivial))
  refine outline_of_alwaysReady (Prog.Calls.bind (calls_send ?_) (fun _ => Prog.Calls.pure a))
  exact fun _ _ _ => trivial

end

/-! ## Turns under the lock of their conversation -/

/-- A session has locked a conversation and counted some turns ahead. -/
structure Room {σ : Type} (i : σ) (k : Uuid) (n : Int) (h : History σ) : Prop where
  writes : h.world.server.Writes i (.conversation k)
  ahead : ((turnIds k (h.world.visible i)).card : Int) + n ≤ turnCountOf k (h.world.visible i)

/-- A session has read the ids of some turns of a conversation. -/
def Selected {σ : Type} (i : σ) (k : Uuid) (rows : List ConversationTurnRecord) (h : History σ) :
    Prop :=
  ∀ row ∈ rows, row.id ∈ turnIds k (h.world.visible i)

section

variable {σ : Type} [DecidableEq σ] {i : σ} {α : Type} {P : History σ → Prop} {k : Uuid} {n : Int}
  {rows : List ConversationTurnRecord}

theorem Room.stable : Stable (turnRely σ) i (Room i k n) := by
  intro h h' j hji _ _ hguar hroom
  obtain ⟨hturns, hcount⟩ := hguar.locked i (Ne.symm hji) k hroom.writes
  refine ⟨hguar.session.writes i (Ne.symm hji) _ hroom.writes, ?_⟩
  rw [hturns, hcount]
  exact hroom.ahead

theorem Selected.stable : Stable (turnRely σ) i (Selected i k rows) := by
  intro h h' j hji hinv hinv' hguar hselected row hrow
  have hsession : TurnsInv h.world i := HistoryInv.sessions hinv i
  have hsession' : TurnsInv h'.world i := HistoryInv.sessions hinv' i
  have hmem := hselected row hrow
  rw [hsession.mem_visible_iff] at hmem
  rw [hsession'.mem_visible_iff]
  rcases hmem with hcommitted | ⟨turn, hput, hk, hid⟩
  · exact Or.inl (hguar.kept k hcommitted)
  · refine Or.inr ⟨turn, ?_, hk, hid⟩
    rw [hguar.session.changes i (Ne.symm hji)]
    exact hput

theorem stable_writes {key : LockKey} :
    Stable (turnRely σ) i (fun h => h.world.server.Writes i key) := by
  intro h h' j hji _ _ hguar hwrites
  exact hguar.session.writes i (Ne.symm hji) key hwrites

/-- A postcondition of one reply. -/
theorem stable_of_reply {r : Except PyError (Option Uuid)} {Q : History σ → Prop}
    (hQ : Stable (turnRely σ) i Q) :
    Stable (turnRely σ) i (fun h => ∀ id, r = .ok (some id) → Q h) := by
  intro h h' j hji hinv hinv' hguar hP id hr
  exact hQ h h' j hji hinv hinv' hguar (hP id hr)

theorem outline_requireRow {p : Action (Option Uuid)} {Q : History σ → Prop}
    (h : Outline (turnRely σ) i P p (fun r h => ∀ id, r = .ok (some id) → Q h)) :
    Outline (turnRely σ) i P (p >>= requireRow) (okOnly fun _ => Q) := by
  refine h.bind (fun row => ?_) (fun _ _ _ _ => trivial)
  cases row with
  | none => exact Outline.raise (fun _ _ _ => trivial)
  | some id => exact Outline.pure (fun _ _ hQ => hQ id rfl)

theorem outline_claimIn (conversationId ownerUserId : Uuid) (observedAt : DateTime) :
    Outline (turnRely σ) i P
      (ConversationStore.claimOrValidateIn conversationId ownerUserId observedAt)
      (okOnly fun _ => fun h => h.world.server.Writes i (.conversation conversationId)) := by
  refine outline_requireRow (Outline.perform (fun _ => stable_of_reply stable_writes) ?_)
  refine turnTriple (fun _ _ _ => trivial) ?_
  intro h delivery r w' _ _ hexec id hr
  subst hr
  obtain ⟨changes, houtcome, hexecuted⟩ := executed_of_ok hexec
  obtain ⟨mode, hmem, hmode⟩ := lock_of_claim
  exact hexecuted.writes hmem hmode

theorem outline_advanceIn {conversationId : Uuid} (ownerUserId : Uuid) (touchedAt : DateTime)
    (hn : 0 ≤ n) :
    Outline (turnRely σ) i (fun h => h.world.server.Writes i (.conversation conversationId))
      (ConversationStore.advanceConversation conversationId ownerUserId touchedAt n)
      (okOnly fun _ => Room i conversationId n) := by
  refine outline_requireRow (Outline.perform (fun _ => stable_of_reply Room.stable) ?_)
  refine turnTriple (fun _ _ _ => hn) ?_
  intro h delivery r w' hinv hwrites hexec id hr
  subst hr
  obtain ⟨changes, houtcome, hexecuted⟩ := executed_of_ok hexec
  have hturns :
      turnIds conversationId (w'.visible i) = turnIds conversationId (h.world.visible i) := by
    rw [hexecuted.visible]
    exact turnIds_of_onlyUpdates houtcome trivial
  have hcount : turnCountOf conversationId (w'.visible i) =
      turnCountOf conversationId (h.world.visible i) + n := by
    rw [hexecuted.visible]
    rcases @turnCountOf_updateConversation _ _ conversationId ownerUserId n (advanced touchedAt n) _
      (fun _ => rfl) (fun _ => rfl) houtcome with ⟨-, hnone⟩ | hcount
    · cases hnone
    · rw [hcount, if_pos rfl]
  have hcounted := (hinv.sessions i).counted conversationId
  refine ⟨hexecuted.keeps_writes hwrites, ?_⟩
  change ((turnIds conversationId (w'.visible i)).card : Int) + n ≤
    turnCountOf conversationId (w'.visible i)
  rw [hturns, hcount]
  omega

theorem outline_insertTurn {row : ConversationTurnRecord} (hn : 0 ≤ n) :
    Outline (turnRely σ) i (Room i row.conversationId (n + 1)) (sql (.insertTurn row))
      (okOnly fun _ => Room i row.conversationId n) := by
  refine Outline.perform ?_ (turnTriple ?_ ?_)
  · intro r
    cases r with
    | ok a => exact Room.stable
    | error e => exact stable_const True
  · intro h _ hroom
    have hahead := hroom.ahead
    exact ⟨hroom.writes, by omega⟩
  · intro h delivery r w' hinv hroom hexec
    cases r with
    | error e => trivial
    | ok a =>
      obtain ⟨changes, houtcome, hexecuted⟩ := executed_of_ok hexec
      obtain ⟨rfl, hnew⟩ := outcome_insertTurn houtcome
      have hturns : turnIds row.conversationId (w'.visible i) ⊆
          insert row.id (turnIds row.conversationId (h.world.visible i)) := by
        intro id hid
        rw [hexecuted.visible,
          turnIds_put rfl (fun old hold heq => absurd heq (hnew old hold))] at hid
        rw [Finset.mem_insert]
        rcases hid with ⟨-, heq⟩ | hold
        · exact Or.inl heq
        · exact Or.inr hold
      have hcount : turnCountOf row.conversationId (w'.visible i) =
          turnCountOf row.conversationId (h.world.visible i) := by
        rw [hexecuted.visible]
        rfl
      have hcard := (Finset.card_le_card hturns).trans (Finset.card_insert_le _ _)
      have hahead := hroom.ahead
      refine ⟨hexecuted.keeps_writes hroom.writes, ?_⟩
      change ((turnIds row.conversationId (w'.visible i)).card : Int) + n ≤
        turnCountOf row.conversationId (w'.visible i)
      rw [hcount]
      omega

/-! ### The operations of the store -/

theorem outline_claimOrValidate (conversationId ownerUserId : Uuid) (observedAt : DateTime) :
    Outline (turnRely σ) i P
      (ConversationStore.claimOrValidate conversationId ownerUserId observedAt) (fun _ _ => True) :=
  outline_unit_transaction ((outline_claimIn _ _ _).post (fun _ _ _ _ => trivial))

theorem outline_appendTurn (store : ConversationStore) (conversationId ownerUserId turnId : Uuid)
    (turn : ConversationTurn) :
    Outline (turnRely σ) i P (store.append conversationId turn ownerUserId turnId)
      (fun _ _ => True) := by
  refine outline_unit_transaction ?_
  refine (outline_claimIn _ _ _).bind (fun _ => ?_) (fun _ _ _ _ => trivial)
  refine (outline_advanceIn _ _ (by decide)).bind (fun _ => ?_) (fun _ _ _ _ => trivial)
  have hinsert := @outline_insertTurn σ _ i 0
    (store.turnRecord turnId conversationId ownerUserId turn) (le_refl 0)
  refine Outline.bind (Outline.pre hinsert ?_) (fun _ => ?_) (fun _ _ _ _ => trivial)
  · intro h _ hroom
    exact hroom
  · exact Outline.pure (fun _ _ _ => trivial)

theorem outline_appendExchange (store : ConversationStore) (conversationId ownerUserId : Uuid)
    (userTurn assistantTurn : ConversationTurn) (evidence : Option ConversationEvidenceSnapshot)
    (userTurnId assistantTurnId evidenceId : Uuid) :
    Outline (turnRely σ) i P (store.appendCompletedExchange conversationId ownerUserId userTurn
      assistantTurn evidence userTurnId assistantTurnId evidenceId) (fun _ _ => True) := by
  unfold ConversationStore.appendCompletedExchange
  split
  · exact Outline.raise (fun _ _ _ => trivial)
  refine outline_unit_transaction ?_
  refine (outline_claimIn _ _ _).bind (fun _ => ?_) (fun _ _ _ _ => trivial)
  refine Outline.bind (Q := fun _ h => h.world.server.Writes i (.conversation conversationId))
    (Outline.ofExcept (fun _ _ hwrites => hwrites)) (fun evidenceRow => ?_) (fun _ _ _ _ => trivial)
  refine (outline_advanceIn _ _ (by decide)).bind (fun _ => ?_) (fun _ _ _ _ => trivial)
  have hfirst := @outline_insertTurn σ _ i 1
    (store.turnRecord userTurnId conversationId ownerUserId userTurn) (by decide)
  have hsecond := @outline_insertTurn σ _ i 0
    (store.turnRecord assistantTurnId conversationId ownerUserId assistantTurn) (le_refl 0)
  refine Outline.bind (Outline.pre hfirst ?_) (fun _ => ?_) (fun _ _ _ _ => trivial)
  · intro h _ hroom
    exact hroom
  refine Outline.bind (Outline.pre hsecond ?_) (fun _ => ?_) (fun _ _ _ _ => trivial)
  · intro h _ hroom
    exact hroom
  refine Outline.pre (outline_of_alwaysReady ?_) (fun _ _ _ => trivial)
  cases evidenceRow with
  | none => exact Prog.Calls.pure ()
  | some row =>
    refine Prog.Calls.bind (calls_sql ?_) (fun _ => Prog.Calls.pure ())
    exact fun _ _ _ => trivial

/-- The flush of an expiry that was read under the lock. -/
theorem outline_flushExpiry {row : ConversationTurnRecord} (hrow : row ∈ rows)
    (expiresAt : DateTime) : Outline (turnRely σ) i
      (fun h => h.world.server.Writes i (.conversation k) ∧ Selected i k rows h)
      (flushUpdate (sql (.updateTurnExpiry row.id expiresAt)))
      (okOnly fun _ => fun h => h.world.server.Writes i (.conversation k) ∧
        Selected i k rows h) := by
  have hupdate : Outline (turnRely σ) i
      (fun h => h.world.server.Writes i (.conversation k) ∧ Selected i k rows h)
      (sql (.updateTurnExpiry row.id expiresAt))
      (okOnly fun _ => fun h => h.world.server.Writes i (.conversation k) ∧
          Selected i k rows h) := by
    refine Outline.perform ?_ (turnTriple ?_ ?_)
    · intro r
      cases r with
      | ok a => exact stable_writes.and Selected.stable
      | error e => exact stable_const True
    · rintro h _ ⟨hwrites, hselected⟩
      exact ⟨k, hwrites, hselected row hrow⟩
    · rintro h delivery r w' _ ⟨hwrites, hselected⟩ hexec
      cases r with
      | error e => trivial
      | ok a =>
        obtain ⟨changes, houtcome, hexecuted⟩ := executed_of_ok hexec
        refine ⟨hexecuted.keeps_writes hwrites, ?_⟩
        intro row' hrow'
        change row'.id ∈ turnIds k (w'.visible i)
        rw [hexecuted.visible, turnIds_of_onlyUpdates houtcome trivial]
        exact hselected row' hrow'
  refine hupdate.bindOk (fun matched => ?_)
  split
  · exact Outline.pure (fun _ _ hQ => hQ)
  · exact Outline.raise (fun _ _ _ => trivial)

omit [DecidableEq σ] in
theorem mem_newExpiries {store : ConversationStore} {id : Uuid} {expiresAt : DateTime}
    (h : (id, expiresAt) ∈ store.newExpiries rows) : ∃ row ∈ rows, row.id = id := by
  unfold ConversationStore.newExpiries at h
  obtain ⟨⟨row, newExpiresAt⟩, hmem, heq⟩ := List.mem_filterMap.mp h
  obtain ⟨row', hrow', hpair⟩ := List.mem_map.mp hmem
  cases hpair
  dsimp only at heq
  split at heq
  · cases heq
  · cases heq
    exact ⟨row, hrow', rfl⟩

theorem outline_closeIn (store : ConversationStore) (conversationId ownerUserId : Uuid)
    (now : DateTime) :
    Outline (turnRely σ) i P (store.closeConversation conversationId ownerUserId now)
      (fun _ _ => True) := by
  refine outline_unit_transaction ?_
  have howner : Outline (turnRely σ) i P
      (ConversationStore.requireOwner conversationId ownerUserId) (fun _ _ => True) := by
    refine Outline.pre (outline_of_alwaysReady ?_) (fun _ _ _ => trivial)
    refine Prog.Calls.bind (calls_sql ?_) (fun row => calls_requireRow row)
    exact fun _ _ _ => trivial
  refine howner.bind (fun _ => ?_) (fun _ _ _ _ => trivial)
  have hselect : Outline (turnRely σ) i (fun _ => True)
      (sql (.selectTurns conversationId ownerUserId))
      (okOnly fun rows => Selected i conversationId rows) := by
    refine Outline.perform ?_ (turnTriple (fun _ _ _ => trivial) ?_)
    · intro r
      cases r with
      | ok rows => exact Selected.stable
      | error e => exact stable_const True
    · intro h delivery r w' _ _ hexec
      cases r with
      | error e => trivial
      | ok rows =>
        obtain ⟨changes, houtcome, hexecuted⟩ := executed_of_ok hexec
        cases houtcome
        intro row hrow
        change row.id ∈ turnIds conversationId (w'.visible i)
        rw [hexecuted.visible]
        obtain ⟨hmem, hmatch⟩ := List.mem_filter.mp hrow
        exact mem_turnIds.mpr ⟨row, hmem, (of_decide_eq_true hmatch).1, rfl⟩
  refine hselect.bind (fun rows => ?_) (fun _ _ _ _ => trivial)
  have hclose : Outline (turnRely σ) i (Selected i conversationId rows)
      (sql (.closeConversation conversationId ownerUserId now))
      (fun r h => ∀ id, r = .ok (some id) →
        h.world.server.Writes i (.conversation conversationId) ∧
            Selected i conversationId rows h) := by
    refine Outline.perform (fun _ => stable_of_reply (stable_writes.and Selected.stable)) ?_
    refine turnTriple (fun _ _ _ => trivial) ?_
    intro h delivery r w' _ hselected hexec id hr
    subst hr
    obtain ⟨changes, houtcome, hexecuted⟩ := executed_of_ok hexec
    constructor
    · exact hexecuted.writes (lock_of_updateConversation houtcome) (by decide)
    · intro row hrow
      change row.id ∈ turnIds conversationId (w'.visible i)
      rw [hexecuted.visible, turnIds_of_onlyUpdates houtcome trivial]
      exact hselected row hrow
  refine hclose.bind (fun found => ?_) (fun _ _ _ _ => trivial)
  cases found with
  | none => exact Outline.raise (fun _ _ _ => trivial)
  | some id =>
    change Outline (turnRely σ) i _ (Prog.forEach (store.newExpiries rows) _) _
    refine Outline.pre (Outline.forEach ?_ (fun _ _ _ => trivial)) (fun h _ hQ => hQ id rfl)
    rintro ⟨rowId, expiresAt⟩ hmem
    obtain ⟨row, hrow, rfl⟩ := mem_newExpiries hmem
    refine (outline_flushExpiry hrow expiresAt).post ?_
    intro r h _ hQ
    cases r with
    | ok a => exact hQ
    | error e => trivial

end

/-! ## Runs -/

section

variable {ι : Type} [DecidableEq ι] {outside : Outside ι} {i : ι} {α : Type}

theorem stable_conversation {b : Bool} {P : History (ι × Bool) → Prop}
    (h : Stable (turnRely (ι × Bool)) (i, b) P) : Stable (conversationRely outside) i P := by
  intro w w' j hji hinv hinv' hguar hP
  rcases hguar with hguar | hguar
  · exact h w w' (j, false) (fun heq => hji (congrArg Prod.fst heq)) hinv hinv' hguar hP
  · exact h w w' (j, true) (fun heq => hji (congrArg Prod.fst heq)) hinv hinv' hguar hP

theorem outline_inMain {P : History (ι × Bool) → Prop} {p : Action α}
    {Q : Except PyError α → History (ι × Bool) → Prop}
    (h : Outline (turnRely (ι × Bool)) (i, false) P p Q) :
    Outline (conversationRely outside) i P (inMain p) Q := by
  refine Outline.embed (fun _ hinv => hinv) (fun _ => stable_conversation) ?_ h
  intro P op R htriple w delivery r w' hinv hP hcond hexec
  obtain ⟨hinv', hguar, hR⟩ := htriple w delivery r w' hinv hP hcond hexec
  exact ⟨hinv', Or.inl hguar, hR⟩

omit [DecidableEq ι] in
/-- A call outside leaves everything as it is. -/
theorem outside_step {h : History (ι × Bool)} (hinv : HistoryInv h) {β : Type} {a : β}
    {delivery : Delivery} {r : Except PyError β} {w' : World (ι × Bool)}
    (hexec : readOutside a delivery h.world = some (r, w')) :
    HistoryInv (h.after w') ∧ HistoryGuar (i, false) h (h.after w') := by
  have hsame : w' = h.world := by
    cases delivery <;> cases hexec <;> rfl
  subst hsame
  exact ⟨hinv.of_committed_eq hinv.server rfl hinv.sessions, .of_committed_eq (.refl _) rfl⟩

/-- Calls that the worker makes. -/
def WorkerReady : WorkerOp → Prop
  | .main op | .nested op => AlwaysReady op
  | _ => True

theorem outline_of_workerReady {p : WorkerAction α} (h : p.Calls WorkerReady) :
    Outline (conversationRely outside) i (fun _ => True) p (fun _ _ => True) := by
  refine Outline.of_calls ?_ h
  intro op hop w delivery r w' hinv _ hcond hexec
  obtain ⟨⟨r', world⟩, hexec', heq⟩ := Option.map_eq_some_iff.mp hexec
  cases heq
  cases op with
  | main op =>
    obtain ⟨hinv', hguar⟩ := HistoryInv.of_exec hinv (hop _ _ w.world) hcond hexec'
    exact ⟨hinv', Or.inl hguar, trivial⟩
  | nested op =>
    obtain ⟨hinv', hguar⟩ := HistoryInv.of_exec hinv (hop _ _ w.world) hcond hexec'
    exact ⟨hinv', Or.inr hguar, trivial⟩
  | extract turns =>
    obtain ⟨hinv', hguar⟩ := outside_step hinv hexec'
    exact ⟨hinv', Or.inl hguar, trivial⟩
  | selectApprovedTools conversationId =>
    obtain ⟨hinv', hguar⟩ := outside_step hinv hexec'
    exact ⟨hinv', Or.inl hguar, trivial⟩

theorem calls_inMain {p : Action α} (h : p.Calls AlwaysReady) : (inMain p).Calls WorkerReady :=
  h.embed (fun _ hop => hop)

theorem calls_inNested {p : Action α} (h : p.Calls OnFacts) : (inNested p).Calls WorkerReady :=
  h.embed (fun _ hop => alwaysReady_of_onFacts hop)

theorem calls_consolidateFact (worker : ConsolidationWorker) (draws : ConsolidationDraws)
    (conversation : AssistantConversationRecord) (sourceTurnIds : List Uuid)
    (permissions : List String) (fact : ExtractedFact) (index : Nat) :
    (worker.consolidateFact draws conversation sourceTurnIds permissions fact index).Calls
      WorkerReady := by
  refine Prog.Calls.bind (calls_inNested (recordOutcome_onFacts _ _ _ _ _ _ _ _)) (fun _ => ?_)
  dsimp only
  split
  · exact Prog.Calls.pure ()
  · refine Prog.Calls.bind (calls_inNested (recordOrGetUserFact_onFacts _ _ _ _)) ?_
    rintro ⟨memoryRecordId, created⟩
    exact calls_inNested (markPromoted_onFacts _ _)

theorem calls_consolidateConversation (worker : ConsolidationWorker) (draws : ConsolidationDraws)
    (conversation : AssistantConversationRecord) :
    (worker.consolidateConversation draws conversation).Calls WorkerReady := by
  refine Prog.Calls.bind (calls_inMain (calls_sql (fun _ _ _ => trivial))) (fun turns => ?_)
  dsimp only
  split
  · exact Prog.Calls.pure ()
  · refine Prog.Calls.bind (Prog.Calls.perform trivial) (fun facts => ?_)
    refine Prog.Calls.bind ?_ (fun permissions => ?_)
    · exact Prog.Calls.bind (Prog.Calls.perform trivial) (fun _ => Prog.Calls.pure _)
    · refine Prog.Calls.forEach ?_
      rintro ⟨fact, index⟩ _
      exact calls_consolidateFact worker draws conversation _ permissions fact index

theorem calls_consolidateOnce (worker : ConsolidationWorker) (draws : ConsolidationDraws) :
    (worker.consolidateOnce draws).Calls WorkerReady := by
  have hsend : ∀ {op : Op}, AlwaysReady op → (inMain (send op)).Calls WorkerReady :=
    fun hop => calls_inMain (calls_send hop)
  refine Prog.Calls.bind (Prog.Calls.attempt ?_) (fun result => ?_)
  · refine Prog.Calls.bind (calls_inMain (calls_sql (fun _ _ _ => trivial))) (fun batch => ?_)
    refine Prog.Calls.bind (Prog.Calls.foldEach ?_) (fun processed => ?_)
    · intro processed conversation _
      refine Prog.Calls.bind (calls_consolidateConversation worker draws conversation) ?_
      exact fun _ => Prog.Calls.pure _
    refine Prog.Calls.bind (Prog.Calls.forEach ?_) (fun _ => ?_)
    · intro conversation _
      exact calls_inMain (calls_flushUpdate (calls_sql (fun _ _ _ => trivial)))
    · exact Prog.Calls.bind (hsend (fun _ _ _ => trivial)) (fun _ => Prog.Calls.pure _)
  · refine Prog.Calls.bind (Prog.Calls.attempt (hsend (fun _ _ _ => trivial))) (fun _ => ?_)
    exact Prog.Calls.ofExcept _

theorem outline_conversationCall (store : ConversationStore) (worker : ConsolidationWorker)
    (call : ConversationCall) :
    Outline (conversationRely outside) i (fun _ => True) (call.program store worker)
      (fun _ _ => True) := by
  cases call with
  | claimOrValidate => exact outline_inMain (outline_claimOrValidate _ _ _)
  | append => exact outline_inMain (outline_appendTurn store _ _ _ _)
  | appendCompletedExchange => exact outline_inMain (outline_appendExchange store _ _ _ _ _ _ _ _)
  | closeConversation => exact outline_inMain (outline_closeIn store _ _ _)
  | consolidateOnce draws =>
    refine outline_of_workerReady (Prog.Calls.bind (calls_consolidateOnce worker draws) ?_)
    exact fun _ => Prog.Calls.pure ()

end

theorem HistoryInv.start {σ : Type} :
    HistoryInv (⟨.idle .empty .empty, fun _ => ∅⟩ : History σ) where
  server := .idle _ _
  sessions _ := .of_nil rfl (fun _ => le_refl _)
  counted _ := le_refl _
  seen _ h := absurd rfl h

section

variable {ι : Type} [DecidableEq ι]

/-- In a run that adds no turn to a consolidated conversation no turn escapes. -/
theorem noTurnEscapes (outside : Outside ι) (store : ConversationStore)
    (worker : ConsolidationWorker) (call : ι → ConversationCall) {c : ConversationSystem ι}
    (hsteps : Steps (tracked (workerExec outside)) keepsConsolidatedClosed
      (ConversationSystem.start store worker call) c) : NoTurnEscapes worker c.world := by
  have hcovered : Covered (conversationRely outside) (fun _ _ _ => True)
      (ConversationSystem.start store worker call) := by
    refine ⟨HistoryInv.start, ?_⟩
    intro i
    exact ⟨fun _ => True, stable_const True, trivial,
      outline_conversationCall store worker (call i)⟩
  have hinv : HistoryInv c.world := (hcovered.steps hsteps).inv
  exact hinv.covers worker

end

/-! ## A conversation that goes on -/

/-- A worker that takes conversations after half an hour. -/
def halfHourWorker : ConsolidationWorker where
  factPolicy := ⟨.ascii, 500, []⟩
  candidateStore := ⟨.ascii, id, 30⟩
  memoryStore := ⟨.ascii, id, "text-embedding-3-small", "user-memory", "documents"⟩
  toolPermissionsByName := []
  idleMinutes := 30

/-- An extractor that finds nothing worth keeping. -/
def nothingFound : Outside (Fin 3) := ⟨fun _ _ => [], fun _ _ => []⟩

/-- An exchange, the worker an hour later, and another exchange after it. -/
def resumedCalls : Fin 3 → ConversationCall
  | 0 => exchangeAt 0 (.ofNat 100) (.ofNat 101)
  | 1 => .consolidateOnce {
      now := ConsolidationWorker.minutes 60
      evaluatedAt := fun _ => ConsolidationWorker.minutes 60
      markedAt := fun _ => ConsolidationWorker.minutes 60
      candidateId := fun _ _ => .ofNat 400
      recordedAt := fun _ _ => 0
      memoryId := fun _ _ => .ofNat 300
      promotedAt := fun _ _ => 0 }
  | 2 => exchangeAt (ConsolidationWorker.minutes 90) (.ofNat 102) (.ofNat 103)
where
  exchangeAt (at_ : DateTime) (userTurnId assistantTurnId : Uuid) : ConversationCall :=
    .appendCompletedExchange (.ofNat 1) (.ofNat 10) ⟨"user", "status of HN01?", at_⟩
      ⟨"assistant", "open", at_⟩ none userTurnId assistantTurnId (.ofNat 500)

def resumedStart : ConversationSystem (Fin 3) :=
  .start { py := .ascii, jsonColumn := id } halfHourWorker resumedCalls

/-- One call after the other. -/
def resumedSchedule : List (Fin 3 × Delivery) :=
  List.replicate 6 (0, .arrives) ++ List.replicate 7 (1, .arrives) ++ List.replicate 6 (2, .arrives)

/-- The turns of the second exchange are never consolidated: the conversation stays marked. -/
theorem not_noTurnEscapes : ∃ c, Steps (tracked (workerExec nothingFound)) always resumedStart c ∧
    ¬ NoTurnEscapes halfHourWorker c.world := by
  have hrun : (runSchedule (tracked (workerExec nothingFound)) always resumedSchedule
      resumedStart).any (fun c =>
        c.world.tables.conversations.rows.any (fun row =>
          decide (2 ≤ (turnIds row.id c.world.tables).card) &&
          decide (.ofNat 103 ∈ turnIds row.id c.world.tables) &&
          !decide (.ofNat 103 ∈ c.world.covered row.id) &&
          decide (row.lastTurnAt ≤ ConsolidationWorker.minutes 120 -
            ConsolidationWorker.minutes halfHourWorker.idleMinutes) &&
          row.consolidatedAt.isSome)) := by
    decide
  obtain ⟨c, hsome, hrows⟩ := (Option.any_eq_true _ _).mp hrun
  refine ⟨c, steps_of_runSchedule hsome, ?_⟩
  intro hall
  obtain ⟨row, hrow, hfacts⟩ := List.any_eq_true.mp hrows
  simp only [Bool.and_eq_true, Bool.not_eq_true', decide_eq_true_eq, decide_eq_false_iff_not]
    at hfacts
  obtain ⟨⟨⟨⟨htwo, hturn⟩, hlater⟩, hidle⟩, hmarked⟩ := hfacts
  have hselected := hall row hrow htwo ⟨.ofNat 103, hturn, hlater⟩ _ hidle
  unfold idleConversations at hselected
  rw [List.mem_insertionSort, List.mem_filter, decide_eq_true_eq] at hselected
  rw [hselected.2.1] at hmarked
  cases hmarked

/-- The exchange and the run of the worker, without the second exchange. -/
def consolidatedRun : Option (ConversationSystem (Fin 3)) :=
  runSchedule (tracked (workerExec nothingFound)) keepsConsolidatedClosed
    (List.replicate 6 (0, .arrives) ++ List.replicate 7 (1, .arrives)) resumedStart

theorem consolidatedRun_isSome : consolidatedRun.isSome := by decide

theorem noTurnEscapes_consolidatedRun :
    NoTurnEscapes halfHourWorker (consolidatedRun.get consolidatedRun_isSome).world :=
  noTurnEscapes nothingFound { py := .ascii, jsonColumn := id } halfHourWorker resumedCalls
    (steps_of_runSchedule (Option.some_get consolidatedRun_isSome).symm)

end HotAirBalloon.Memory
