import HotAirBalloon.Memory.Locking

/-!
# Turns, counters and consolidation

Which turns a conversation had when it was last consolidated is a history that runs beside the
tables.

`HistoryInv` is the invariant: a session adds turns under the lock of their conversation, the
counter of a conversation covers its turns, also in what a session sees before it commits, and the
turns of a consolidated conversation are in the history. A step keeps it when the session is ready
for its call (`ReadyFor`) and does not commit a turn into a consolidated conversation.
-/

namespace HotAirBalloon.Memory

open Python Library

/-! ## Turns of a conversation -/

/-- The ids of the turns of a conversation. -/
def turnIds (conversationId : Uuid) (t : Tables) : Finset Uuid :=
  ((t.turns.rows.filter (fun row => row.conversationId = conversationId)).map (·.id)).toFinset

/-- `turn_count`, 0 for a conversation that does not exist. -/
def turnCountOf (conversationId : Uuid) (t : Tables) : Int :=
  ((t.conversations.find? conversationId).map (·.turnCount)).getD 0

def consolidatedAtOf (conversationId : Uuid) (t : Tables) : Option DateTime :=
  (t.conversations.find? conversationId).bind (·.consolidatedAt)

section

variable {t t' : Tables} {k id : Uuid}

theorem mem_turnIds : id ∈ turnIds k t ↔ ∃ turn ∈ t.turns,
    turn.conversationId = k ∧ turn.id = id := by
  unfold turnIds
  rw [List.mem_toFinset, List.mem_map]
  constructor
  · rintro ⟨turn, hturn, hid⟩
    obtain ⟨hmem, hconversation⟩ := List.mem_filter.mp hturn
    exact ⟨turn, hmem, of_decide_eq_true hconversation, hid⟩
  · rintro ⟨turn, hmem, hconversation, hid⟩
    exact ⟨turn, List.mem_filter.mpr ⟨hmem, decide_eq_true hconversation⟩, hid⟩

/-- A turn belongs to one conversation. -/
theorem eq_of_mem_turnIds {k' : Uuid} (h : id ∈ turnIds k t) (h' : id ∈ turnIds k' t) : k = k' := by
  obtain ⟨turn, hmem, hconversation, hid⟩ := mem_turnIds.mp h
  obtain ⟨turn', hmem', hconversation', hid'⟩ := mem_turnIds.mp h'
  have hsame : turn = turn' := Table.eq_of_key_eq hmem hmem' (hid.trans hid'.symm)
  rw [← hconversation, hsame, hconversation']

theorem turnCountOf_eq {row : AssistantConversationRecord} (h : row ∈ t.conversations) :
    turnCountOf row.id t = row.turnCount := by
  unfold turnCountOf
  rw [Table.find?_eq_some_iff.mpr ⟨h, rfl⟩]
  rfl

theorem consolidatedAtOf_eq {row : AssistantConversationRecord} (h : row ∈ t.conversations) :
    consolidatedAtOf row.id t = row.consolidatedAt := by
  unfold consolidatedAtOf
  rw [Table.find?_eq_some_iff.mpr ⟨h, rfl⟩]
  rfl

/-- The count after a row of a conversation is written. -/
theorem turnCountOf_put {row : AssistantConversationRecord}
    (h : t'.conversations = t.conversations.put row) :
    turnCountOf k t' = if k = row.id then row.turnCount else turnCountOf k t := by
  unfold turnCountOf
  rw [h, Table.find?_put]
  split
  · rfl
  · rfl

theorem turnIds_put {row : ConversationTurnRecord} (h : t'.turns = t.turns.put row)
    (hnew : ∀ old ∈ t.turns, old.id = row.id → old.conversationId = row.conversationId) :
    id ∈ turnIds k t' ↔ (k = row.conversationId ∧ id = row.id) ∨ id ∈ turnIds k t := by
  simp only [mem_turnIds, h, Table.mem_put]
  constructor
  · rintro ⟨turn, rfl | ⟨hmem, -⟩, rfl, rfl⟩
    · exact Or.inl ⟨rfl, rfl⟩
    · exact Or.inr ⟨turn, hmem, rfl, rfl⟩
  · rintro (⟨rfl, rfl⟩ | ⟨turn, hmem, hconversation, hid⟩)
    · exact ⟨row, Or.inl rfl, rfl, rfl⟩
    · by_cases hsame : turn.id = row.id
      · exact ⟨row, Or.inl rfl, (hnew turn hmem hsame).symm.trans hconversation,
          hsame.symm.trans hid⟩
      · exact ⟨turn, Or.inr ⟨hmem, hsame⟩, hconversation, hid⟩

end

/-! ## What a statement does to them -/

section

variable {stmt : Sql} {locked : LockKey → LockMode → Bool} {t : Tables} {a : stmt.Reply}
  {changes : List Change} {k id : Uuid}

/-- The tables after the changes of a statement. -/
abbrev afterChanges (changes : List Change) (t : Tables) : Tables :=
  Server.applyAll Change.apply changes t

theorem turns_of_quiet (h : (stmt.effect locked t).outcome = .ok (a, changes))
    (hquiet : RowKind.turn ∉ stmt.writes) : (afterChanges changes t).turns = t.turns := by
  have hnone : changes.filterMap Change.turn? = [] := by
    rw [List.filterMap_eq_nil_iff]
    intro change hchange
    have hkind := kind_mem_writes h change hchange
    cases change with
    | turn edit => exact absurd hkind hquiet
    | _ => rfl
  rw [turns_applyAll, hnone]
  rfl

theorem conversations_of_quiet (h : (stmt.effect locked t).outcome = .ok (a, changes))
    (hquiet : RowKind.conversation ∉ stmt.writes) :
    (afterChanges changes t).conversations = t.conversations := by
  have hnone : changes.filterMap Change.conversation? = [] := by
    rw [List.filterMap_eq_nil_iff]
    intro change hchange
    have hkind := kind_mem_writes h change hchange
    cases change with
    | conversation edit => exact absurd hkind hquiet
    | _ => rfl
  rw [conversations_applyAll, hnone]
  rfl

/-- A new turn. -/
theorem outcome_insertTurn {row : ConversationTurnRecord} {a : Nat}
    (h : (insertTurn row t).outcome = .ok (a, changes)) :
    changes = [.turn (.put row)] ∧ ∀ old ∈ t.turns, old.id ≠ row.id := by
  unfold insertTurn at h
  dsimp only at h
  split at h
  · cases h
  · rename_i hid
    cases changes_ite h
    rw [Option.not_isSome_iff_eq_none] at hid
    exact ⟨rfl, Table.find?_eq_none_iff.mp hid⟩

/-- Setting an expiry writes the row with its id again, if there is one. -/
theorem outcome_updateTurnExpiry {expiresAt : DateTime} {a : Nat}
    (h : (updateTurnExpiry id expiresAt t).outcome = .ok (a, changes)) :
    changes = [] ∨ ∃ row ∈ t.turns, row.id = id ∧
      changes = [.turn (.put { row with expiresAt := some expiresAt })] := by
  unfold updateTurnExpiry at h
  cases hrow : t.turns.find? id with
  | none =>
    rw [hrow] at h
    exact Or.inl (changes_readEffect h)
  | some row =>
    rw [hrow] at h
    obtain ⟨hmem, hid⟩ := Table.find?_eq_some_iff.mp hrow
    exact Or.inr ⟨row, hmem, hid, changes_writeEffect h⟩

/-- An update of a conversation moves its own counter. -/
theorem turnCountOf_updateConversation {c u : Uuid} {increment : Int}
    {set : AssistantConversationRecord → AssistantConversationRecord} {a : Option Uuid}
    (hid : ∀ row, (set row).id = row.id)
    (hcount : ∀ row, (set row).turnCount = row.turnCount + increment)
    (h : (updateConversation c u set t).outcome = .ok (a, changes)) :
    (changes = [] ∧ a = none) ∨ ∀ k,
      turnCountOf k (afterChanges changes t) = turnCountOf k t + if k = c then increment
        else 0 := by
  unfold updateConversation at h
  cases hrow : ownedConversation c u t with
  | none =>
    rw [hrow] at h
    cases h
    exact Or.inl ⟨rfl, rfl⟩
  | some row =>
    rw [hrow] at h
    cases h
    obtain ⟨hfind, -⟩ := Option.filter_eq_some_iff.mp hrow
    obtain ⟨hmem, rfl⟩ := Table.find?_eq_some_iff.mp hfind
    refine Or.inr ?_
    intro k
    have hput :=
      @turnCountOf_put t (afterChanges [.conversation (.put (set row))] t) k (set row) rfl
    rw [hput, hid]
    by_cases hk : k = row.id
    · rw [if_pos hk, if_pos hk, hk, turnCountOf_eq hmem, hcount]
    · rw [if_neg hk, if_neg hk, add_zero]

theorem turnCountOf_claim {c u : Uuid} {observedAt : DateTime} {a : Option Uuid}
    (h : (claimConversation c u observedAt t).outcome = .ok (a, changes)) :
    turnCountOf k (afterChanges changes t) = turnCountOf k t := by
  unfold claimConversation at h
  cases hrow : t.conversations.find? c with
  | none =>
    rw [hrow] at h
    cases h
    rw [@turnCountOf_put t _ k ⟨c, u, observedAt, observedAt, 0, none, none⟩ rfl]
    split
    · rename_i hk
      subst hk
      unfold turnCountOf
      rw [hrow]
      rfl
    · rfl
  | some row =>
    rw [hrow] at h
    dsimp only at h
    obtain ⟨hmem, rfl⟩ := Table.find?_eq_some_iff.mp hrow
    split at h
    · cases h
      rw [@turnCountOf_put t _ k row rfl]
      split
      · rename_i hk
        rw [hk, turnCountOf_eq hmem]
      · rfl
    · cases h
      rfl

theorem turnCountOf_markConsolidated {consolidatedAt : DateTime} {a : Nat}
    (h : (markConsolidated id consolidatedAt t).outcome = .ok (a, changes)) :
    turnCountOf k (afterChanges changes t) = turnCountOf k t := by
  rcases changes_markConsolidated h with rfl | ⟨row, hmem, -, rfl, -⟩
  · rfl
  · rw [@turnCountOf_put t _ k { row with consolidatedAt := some consolidatedAt } rfl]
    split
    · rename_i hk
      rw [hk, turnCountOf_eq hmem]
    · rfl

/-- Statements that do not remove conversations or turns, and add no turns. -/
def Sql.onlyUpdates : Sql → Prop
  | insertTurn .. | deleteTurns .. | deleteConversations .. => False
  | _ => True

/-- A statement that only updates leaves every conversation its turns. -/
theorem turnIds_of_onlyUpdates (h : (stmt.effect locked t).outcome = .ok (a, changes))
    (hupdates : stmt.onlyUpdates) : turnIds k (afterChanges changes t) = turnIds k t := by
  by_cases hquiet : RowKind.turn ∉ stmt.writes
  · unfold turnIds
    rw [turns_of_quiet h hquiet]
  · cases stmt with
    | updateTurnExpiry id expiresAt =>
      rcases outcome_updateTurnExpiry h with rfl | ⟨row, hmem, -, rfl⟩
      · rfl
      · ext id'
        rw [@turnIds_put t _ k id' { row with expiresAt := some expiresAt } rfl ?_]
        · constructor
          · rintro (⟨rfl, rfl⟩ | hold)
            · exact mem_turnIds.mpr ⟨row, hmem, rfl, rfl⟩
            · exact hold
          · exact Or.inr
        · intro old hold hid
          rw [Table.eq_of_key_eq hold hmem hid]
    | insertTurn row => exact hupdates.elim
    | deleteTurns ids => exact hupdates.elim
    | deleteConversations ids => exact hupdates.elim
    | _ => exact absurd (by simp [Sql.writes]) hquiet

/-- It does not lower a counter either, if it does not advance by a negative number. -/
theorem turnCountOf_of_onlyUpdates (h : (stmt.effect locked t).outcome = .ok (a, changes))
    (hupdates : stmt.onlyUpdates)
    (hadvance : ∀ c u touchedAt increment, stmt = .advanceConversation c u touchedAt increment →
      0 ≤ increment) : turnCountOf k t ≤ turnCountOf k (afterChanges changes t) := by
  by_cases hquiet : RowKind.conversation ∉ stmt.writes
  · unfold turnCountOf
    rw [conversations_of_quiet h hquiet]
  · cases stmt with
    | claimConversation c u observedAt => exact (turnCountOf_claim h).ge
    | markConsolidated id consolidatedAt => exact (turnCountOf_markConsolidated h).ge
    | closeConversation c u closedAt =>
      rcases @turnCountOf_updateConversation t changes c u 0
        (fun row => { row with closedAt := some closedAt }) a (fun _ => rfl)
        (fun _ => (add_zero _).symm) h with ⟨rfl, -⟩ | hcount
      · exact le_refl _
      · rw [hcount, ite_self, add_zero]
    | advanceConversation c u touchedAt increment =>
      have hnonneg := hadvance c u touchedAt increment rfl
      rcases @turnCountOf_updateConversation t changes c u increment
        (advanced touchedAt increment) a (fun _ => rfl) (fun _ => rfl) h with ⟨rfl, -⟩ | hcount
      · exact le_refl _
      · rw [hcount]
        split
        · omega
        · omega
    | deleteConversations ids => exact hupdates.elim
    | _ => exact absurd (by simp [Sql.writes]) hquiet

end

/-! ## Histories -/

/-- A world, and the turns that each conversation had when it was last consolidated. -/
structure History (σ : Type) where
  world : World σ
  covered : Uuid → Finset Uuid

/-- A step that sets `consolidated_at` covers the turns that are there after it. -/
def coveredAfter (covered : Uuid → Finset Uuid) (t t' : Tables) : Uuid → Finset Uuid := fun k =>
  if consolidatedAtOf k t' ≠ none ∧ consolidatedAtOf k t' ≠ consolidatedAtOf k t then turnIds k t'
  else covered k

theorem coveredAfter_self (covered : Uuid → Finset Uuid) (t : Tables) :
    coveredAfter covered t t = covered := by
  funext k
  exact if_neg (fun h => h.2 rfl)

namespace History

variable {σ : Type} (h : History σ)

/-- The committed tables. -/
def tables : Tables := h.world.server.committed

def after (w : World σ) : History σ := ⟨w, coveredAfter h.covered h.tables w.server.committed⟩

end History

/-- Calls that keep the history beside the world. -/
def tracked {ι σ Op' : Type} {Reply' : Op' → Type}
    (exec : Exec ι PyError Op' Reply' Delivery (World σ)) :
    Exec ι PyError Op' Reply' Delivery (History σ) := fun i op delivery h =>
  (exec i op delivery h.world).map fun (reply, w) => (reply, h.after w)

/-- A commit adds no turn to a conversation that is consolidated. -/
def addsOnlyToOpen {σ : Type} (i : σ) (op : Op) (h : History σ) : Bool :=
  match op with
  | .commit => (h.world.server.changes i).all fun change =>
    match change with
    | .turn (.put turn) => decide (turn.id ∈ turnIds turn.conversationId h.tables) ||
        (consolidatedAtOf turn.conversationId (h.world.visible i)).isNone
    | _ => true
  | _ => true

/-- A session adds turns under the lock of their conversation, and the counters that it sees cover
the turns that it sees. -/
structure TurnsInv {σ : Type} (w : World σ) (i : σ) : Prop where
  locked : ∀ turn, Change.turn (.put turn) ∈ w.server.changes i →
    w.server.Writes i (.conversation turn.conversationId)
  added : ∀ turn, Change.turn (.put turn) ∈ w.server.changes i →
    turn.id ∈ turnIds turn.conversationId (w.visible i)
  kept : ∀ k, turnIds k w.server.committed ⊆ turnIds k (w.visible i)
  counted : ∀ k, ((turnIds k (w.visible i)).card : Int) ≤ turnCountOf k (w.visible i)

/-- The counters cover the turns, and so does the history where a conversation is consolidated. -/
structure HistoryInv {σ : Type} (h : History σ) : Prop where
  server : ServerInv h.world
  sessions : ∀ i, TurnsInv h.world i
  counted : ∀ k, ((turnIds k h.tables).card : Int) ≤ turnCountOf k h.tables
  seen : ∀ k, consolidatedAtOf k h.tables ≠ none → turnIds k h.tables ⊆ h.covered k

/-- What a step of a session leaves to the others. -/
structure HistoryGuar {σ : Type} (i : σ) (h h' : History σ) : Prop where
  session : SessionGuar i h.world h'.world
  kept : ∀ k, turnIds k h.tables ⊆ turnIds k h'.tables
  locked : ∀ j ≠ i, ∀ k, h.world.server.Writes j (.conversation k) →
    turnIds k (h'.world.visible j) = turnIds k (h.world.visible j) ∧
      turnCountOf k (h'.world.visible j) = turnCountOf k (h.world.visible j)

/-- What a call may rely on: a turn is added under the lock of its conversation and after its
counter, and an expiry is set under the lock. -/
def ReadyFor {σ : Type} (i : σ) (op : Op) (w : World σ) : Prop :=
  match op with
  | .sql (.insertTurn row) => w.server.Writes i (.conversation row.conversationId) ∧
      ((turnIds row.conversationId (w.visible i)).card : Int) <
        turnCountOf row.conversationId (w.visible i)
  | .sql (.updateTurnExpiry id _) => ∃ k, w.server.Writes i (.conversation k) ∧
      id ∈ turnIds k (w.visible i)
  | .sql (.advanceConversation _ _ _ increment) => 0 ≤ increment
  | .sql (.deleteTurns _) | .sql (.deleteConversations _) => False
  | _ => True

/-! ## Sessions -/

section

variable {σ : Type} {i j : σ} {w w' : World σ} {k id : Uuid}

/-- The turns that a session sees are the committed ones and its own. -/
theorem TurnsInv.mem_visible_iff (h : TurnsInv w i) : id ∈ turnIds k (w.visible i) ↔
    id ∈ turnIds k w.server.committed ∨ ∃ turn, Change.turn (.put turn) ∈ w.server.changes i ∧
      turn.conversationId = k ∧ turn.id = id := by
  constructor
  · intro hmem
    obtain ⟨turn, hturn, rfl, rfl⟩ := mem_turnIds.mp hmem
    unfold World.visible Server.visible at hturn
    rw [turns_applyAll] at hturn
    rcases Table.put_or_mem hturn with hput | hold
    · exact Or.inr ⟨turn, (mem_filterMap_turn? _).mp hput, rfl, rfl⟩
    · exact Or.inl (mem_turnIds.mpr ⟨turn, hold, rfl, rfl⟩)
  · rintro (hold | ⟨turn, hput, rfl, rfl⟩)
    · exact h.kept k hold
    · exact h.added turn hput

theorem visible_congr (hcommitted : w'.server.committed = w.server.committed)
    (hchanges : w'.server.changes i = w.server.changes i) : w'.visible i = w.visible i := by
  unfold World.visible Server.visible
  rw [hcommitted, hchanges]

/-- A session that nothing has happened to. -/
theorem TurnsInv.congr (h : TurnsInv w i) (hcommitted : w'.server.committed = w.server.committed)
    (hchanges : w'.server.changes i = w.server.changes i)
    (hwrites : ∀ key, w.server.Writes i key → w'.server.Writes i key) : TurnsInv w' i := by
  have hvisible := visible_congr hcommitted hchanges
  refine ⟨?_, ?_, ?_, ?_⟩
  · rw [hchanges]
    intro turn hput
    exact hwrites _ (h.locked turn hput)
  · rw [hchanges, hvisible]
    exact h.added
  · rw [hcommitted, hvisible]
    exact h.kept
  · rw [hvisible]
    exact h.counted

/-- A session without changes. -/
theorem TurnsInv.of_nil (hchanges : w.server.changes i = [])
    (hcounted : ∀ k, ((turnIds k w.server.committed).card : Int) ≤
      turnCountOf k w.server.committed) : TurnsInv w i := by
  have hvisible := visible_of_nil hchanges
  refine ⟨?_, ?_, ?_, ?_⟩
  · rw [hchanges]
    exact fun _ hput => absurd hput List.not_mem_nil
  · rw [hchanges]
    exact fun _ hput => absurd hput List.not_mem_nil
  · rw [hvisible]
    exact fun _ => Finset.Subset.refl _
  · rw [hvisible]
    exact hcounted

variable [DecidableEq σ]

/-- What a session sees after its statement. -/
theorem Executed.visible {stmt : Sql} {changes : List Change} (h : Executed i stmt w w' changes) :
    w'.visible i = afterChanges changes (w.visible i) := by
  unfold World.visible Server.visible afterChanges
  rw [h.committed, h.changes_eq, Function.update_self]
  exact List.foldl_append

/-- The turns after a statement that is ready: no turn is gone, and a turn that it writes is seen
and its conversation is locked. -/
theorem turns_of_executed {stmt : Sql} {changes : List Change} (h : Executed i stmt w w' changes)
    (hinv : TurnsInv w i) (hready : ReadyFor i (.sql stmt) w) :
    (∀ k, turnIds k (w.visible i) ⊆ turnIds k (w'.visible i)) ∧
    (∀ k, ((turnIds k (w'.visible i)).card : Int) ≤ turnCountOf k (w'.visible i)) ∧
    ∀ turn, Change.turn (.put turn) ∈ changes →
      w.server.Writes i (.conversation turn.conversationId) ∧
        turn.id ∈ turnIds turn.conversationId (w'.visible i) := by
  obtain ⟨a, houtcome⟩ := h.outcome
  rw [h.visible]
  by_cases hupdates : stmt.onlyUpdates
  · have hsame : ∀ k, turnIds k (afterChanges changes (w.visible i)) = turnIds k (w.visible i) :=
      fun k => turnIds_of_onlyUpdates houtcome hupdates
    refine ⟨?_, ?_, ?_⟩
    · intro k
      rw [hsame]
    · intro k
      rw [hsame]
      refine (hinv.counted k).trans (turnCountOf_of_onlyUpdates houtcome hupdates ?_)
      intro c u touchedAt increment hstmt
      subst hstmt
      exact hready
    · intro turn hput
      rw [hsame]
      have hedit := turnEdit houtcome hput
      cases stmt with
      | updateTurnExpiry id expiresAt =>
        obtain ⟨k, hwrites, hmem⟩ := hready
        cases hedit with
        | expiry hrow =>
          have hown := mem_turnIds.mpr ⟨_, hrow, rfl, rfl⟩
          have hk := eq_of_mem_turnIds hown hmem
          exact ⟨by rw [← hk] at hwrites; exact hwrites, hown⟩
      | insertTurn row => exact hupdates.elim
      | _ => cases hedit
  · cases stmt with
    | insertTurn row =>
      obtain ⟨hwrites, hroom⟩ := hready
      obtain ⟨rfl, hnew⟩ := outcome_insertTurn houtcome
      have hmem : ∀ k id, id ∈ turnIds k (afterChanges [.turn (.put row)] (w.visible i)) ↔
          (k = row.conversationId ∧ id = row.id) ∨ id ∈ turnIds k (w.visible i) := by
        intro k id
        refine turnIds_put rfl ?_
        exact fun old hold hid => absurd hid (hnew old hold)
      refine ⟨?_, ?_, ?_⟩
      · intro k id hid
        exact (hmem k id).mpr (Or.inr hid)
      · intro k
        change _ ≤ turnCountOf k (w.visible i)
        by_cases hk : k = row.conversationId
        · have hinsert : turnIds k (afterChanges [.turn (.put row)] (w.visible i)) =
              insert row.id (turnIds k (w.visible i)) := by
            ext id
            rw [hmem, Finset.mem_insert, and_iff_right hk]
          have hcard := Finset.card_insert_le row.id (turnIds k (w.visible i))
          rw [hinsert, hk] at *
          omega
        · have hsame : turnIds k (afterChanges [.turn (.put row)] (w.visible i)) =
              turnIds k (w.visible i) := by
            ext id
            rw [hmem]
            exact or_iff_right (fun h => hk h.1)
          rw [hsame]
          exact hinv.counted k
      · intro turn hput
        cases List.mem_singleton.mp hput
        exact ⟨hwrites, (hmem _ _).mpr (Or.inl ⟨rfl, rfl⟩)⟩
    | deleteTurns ids => exact hready.elim
    | deleteConversations ids => exact hready.elim
    | _ => exact absurd trivial hupdates

theorem TurnsInv.of_executed {stmt : Sql} {changes : List Change}
    (hinv : TurnsInv w i) (h : Executed i stmt w w' changes) (hready : ReadyFor i (.sql stmt) w) :
    TurnsInv w' i := by
  obtain ⟨hkept, hcounted, hnew⟩ := turns_of_executed h hinv hready
  have hput : ∀ turn, Change.turn (.put turn) ∈ w'.server.changes i →
      w.server.Writes i (.conversation turn.conversationId) ∧
        turn.id ∈ turnIds turn.conversationId (w'.visible i) := by
    intro turn hput
    rw [h.changes_eq, Function.update_self, List.mem_append] at hput
    rcases hput with hold | hmem
    · exact ⟨hinv.locked turn hold, hkept _ (hinv.added turn hold)⟩
    · exact hnew turn hmem
  refine ⟨?_, ?_, ?_, hcounted⟩
  · intro turn hmem
    exact h.keeps_writes (hput turn hmem).1
  · intro turn hmem
    exact (hput turn hmem).2
  · intro k
    rw [h.committed]
    exact (hinv.kept k).trans (hkept k)

/-! ### The commit of another session -/

omit [DecidableEq σ] in
/-- A turn that a session has not written is seen as it is committed. -/
theorem mem_turnIds_visible_of_unwritten
    (h : ∀ change ∈ w.server.changes i, change.lockKey ≠ .turn id) :
    id ∈ turnIds k (w.visible i) ↔ id ∈ turnIds k w.server.committed := by
  have hne : ∀ edit ∈ (w.server.changes i).filterMap Change.turn?, edit.target ≠ id := by
    intro edit hedit hid
    exact h _ ((mem_filterMap_turn? _).mp hedit) (congrArg LockKey.turn hid)
  have hrow : ∀ row : ConversationTurnRecord, row.id = id →
      (row ∈ (w.visible i).turns ↔ row ∈ w.server.committed.turns) := by
    intro row hid
    unfold World.visible Server.visible
    rw [turns_applyAll]
    subst hid
    constructor
    · intro hmem
      rcases Table.put_or_mem hmem with hput | hold
      · exact absurd rfl (hne _ hput)
      · exact hold
    · exact fun hmem => Table.mem_applyEdits_of_forall_ne hmem hne
  rw [mem_turnIds, mem_turnIds]
  constructor
  · rintro ⟨row, hmem, hk, hid⟩
    exact ⟨row, (hrow row hid).mp hmem, hk, hid⟩
  · rintro ⟨row, hmem, hk, hid⟩
    exact ⟨row, (hrow row hid).mpr hmem, hk, hid⟩

omit [DecidableEq σ] in
theorem mem_turnIds_visible_congr (hchanges : w'.server.changes i = w.server.changes i)
    (h : ∀ row : ConversationTurnRecord, row.id = id →
      (row ∈ w'.server.committed.turns ↔ row ∈ w.server.committed.turns)) :
    id ∈ turnIds k (w'.visible i) ↔ id ∈ turnIds k (w.visible i) := by
  have hrow : ∀ row : ConversationTurnRecord, row.id = id →
      (row ∈ (w'.visible i).turns ↔ row ∈ (w.visible i).turns) := by
    intro row hid
    unfold World.visible Server.visible
    rw [turns_applyAll, turns_applyAll, hchanges]
    exact Table.mem_applyEdits_congr (h row hid)
  rw [mem_turnIds, mem_turnIds]
  constructor
  · rintro ⟨row, hmem, hk, hid⟩
    exact ⟨row, (hrow row hid).mp hmem, hk, hid⟩
  · rintro ⟨row, hmem, hk, hid⟩
    exact ⟨row, (hrow row hid).mpr hmem, hk, hid⟩

omit [DecidableEq σ] in
theorem turnCountOf_visible_of_unwritten
    (h : ∀ change ∈ w.server.changes i, change.lockKey ≠ .conversation k) :
    turnCountOf k (w.visible i) = turnCountOf k w.server.committed := by
  unfold turnCountOf World.visible Server.visible
  rw [conversations_applyAll, Table.find?_applyEdits_of_forall_ne]
  intro edit hedit hid
  exact h _ ((mem_filterMap_conversation? _).mp hedit) (congrArg LockKey.conversation hid)

omit [DecidableEq σ] in
theorem turnCountOf_visible_congr (hchanges : w'.server.changes i = w.server.changes i)
    (h : ∀ row : AssistantConversationRecord, row.id = k →
      (row ∈ w'.server.committed.conversations ↔ row ∈ w.server.committed.conversations)) :
    turnCountOf k (w'.visible i) = turnCountOf k (w.visible i) := by
  unfold turnCountOf World.visible Server.visible
  rw [conversations_applyAll, conversations_applyAll, hchanges, Table.find?_congr]
  intro row hid
  exact Table.mem_applyEdits_congr (h row hid)

variable {op : Op} {delivery : Delivery} {reply : Except PyError op.Reply}

/-- What a session has under its locks is not touched by the commit of another. -/
theorem locked_of_commit (hserver : ServerInv w) (hi : TurnsInv w i) (hji : j ≠ i)
    (hexec : exec i op delivery w = some (reply, w'))
    (hcommitted : w'.server.committed = w.visible i)
    (hwrites : w.server.Writes j (.conversation k)) :
    turnIds k (w'.visible j) = turnIds k (w.visible j) ∧
      turnCountOf k (w'.visible j) = turnCountOf k (w.visible j) := by
  have hchanges := changes_of_ne hexec hji
  constructor
  · ext id
    by_cases hturn : w.server.Writes j (.turn id)
    · refine mem_turnIds_visible_congr hchanges ?_
      intro row hid
      subst hid
      exact hserver.turns_iff hexec hji hturn
    · have hunwritten : ∀ change ∈ w.server.changes j, change.lockKey ≠ .turn id := by
        intro change hchange hkey
        have hown := hserver.writes j change hchange
        rw [hkey] at hown
        exact hturn hown
      rw [mem_turnIds_visible_of_unwritten hunwritten]
      rw [← hchanges] at hunwritten
      rw [mem_turnIds_visible_of_unwritten hunwritten, hcommitted, hi.mem_visible_iff]
      -- the other session has no turn of a conversation that this one has locked
      refine or_iff_left ?_
      rintro ⟨turn, hput, rfl, -⟩
      exact hji (hserver.exclusive.eq_of_writes hwrites (hi.locked turn hput))
  · refine turnCountOf_visible_congr hchanges ?_
    intro row hid
    subst hid
    exact hserver.conversations_iff hexec hji hwrites

theorem TurnsInv.of_commit (hserver : ServerInv w) (hi : TurnsInv w i) (hj : TurnsInv w j)
    (hji : j ≠ i) (hexec : exec i op delivery w = some (reply, w'))
    (hcommitted : w'.server.committed = w.visible i) : TurnsInv w' j := by
  have hchanges := changes_of_ne hexec hji
  have hframe : ∀ k, w.server.Writes j (.conversation k) →
      turnIds k (w'.visible j) = turnIds k (w.visible j) ∧
        turnCountOf k (w'.visible j) = turnCountOf k (w.visible j) :=
    fun k => locked_of_commit hserver hi hji hexec hcommitted
  refine ⟨?_, ?_, ?_, ?_⟩
  · rw [hchanges]
    intro turn hput
    exact writes_of_ne hexec hji (hj.locked turn hput)
  · rw [hchanges]
    intro turn hput
    rw [(hframe _ (hj.locked turn hput)).1]
    exact hj.added turn hput
  · intro k id hid
    by_cases hturn : w.server.Writes j (.turn id)
    · have hrow : ∀ row : ConversationTurnRecord, row.id = id →
          (row ∈ w'.server.committed.turns ↔ row ∈ w.server.committed.turns) := by
        intro row hrowId
        subst hrowId
        exact hserver.turns_iff hexec hji hturn
      obtain ⟨row, hmem, hk, hrowId⟩ := mem_turnIds.mp hid
      have hold := hj.kept k (mem_turnIds.mpr ⟨row, (hrow row hrowId).mp hmem, hk, hrowId⟩)
      exact (mem_turnIds_visible_congr hchanges hrow).mpr hold
    · refine (mem_turnIds_visible_of_unwritten ?_).mpr hid
      rw [hchanges]
      intro change hchange hkey
      have hown := hserver.writes j change hchange
      rw [hkey] at hown
      exact hturn hown
  · intro k
    by_cases hwrites : w.server.Writes j (.conversation k)
    · rw [(hframe k hwrites).1, (hframe k hwrites).2]
      exact hj.counted k
    · -- nothing of the conversation is this session's: it sees what is committed
      have hunwritten : ∀ change ∈ w'.server.changes j, change.lockKey ≠ .conversation k := by
        rw [hchanges]
        intro change hchange hkey
        have hown := hserver.writes j change hchange
        rw [hkey] at hown
        exact hwrites hown
      have hsubset : turnIds k (w'.visible j) ⊆ turnIds k w'.server.committed := by
        intro id hid
        obtain ⟨turn, hturn, rfl, rfl⟩ := mem_turnIds.mp hid
        unfold World.visible Server.visible at hturn
        rw [turns_applyAll] at hturn
        rcases Table.put_or_mem hturn with hput | hold
        · rw [mem_filterMap_turn?, hchanges] at hput
          exact absurd (hj.locked turn hput) hwrites
        · exact mem_turnIds.mpr ⟨turn, hold, rfl, rfl⟩
      have hcard := Finset.card_le_card hsubset
      have hcount := hi.counted k
      rw [turnCountOf_visible_of_unwritten hunwritten]
      rw [← hcommitted] at hcount
      omega

end

/-! ## Steps -/

section

variable {σ : Type} [DecidableEq σ] {i : σ} {h : History σ} {w' : World σ} {op : Op}
  {delivery : Delivery} {reply : Except PyError op.Reply}

omit [DecidableEq σ] in
/-- A step that commits nothing. -/
theorem HistoryInv.of_committed_eq (hinv : HistoryInv h) (hserver : ServerInv w')
    (hcommitted : w'.server.committed = h.tables) (hsessions : ∀ j, TurnsInv w' j) :
    HistoryInv (h.after w') := by
  have htables : (h.after w').tables = h.tables := hcommitted
  have hcovered : (h.after w').covered = h.covered := by
    change coveredAfter h.covered h.tables (h.after w').tables = _
    rw [htables, coveredAfter_self]
  refine ⟨hserver, hsessions, ?_, ?_⟩
  · rw [htables]
    exact hinv.counted
  · rw [htables, hcovered]
    exact hinv.seen

omit [DecidableEq σ] in
theorem HistoryGuar.of_committed_eq (hguar : SessionGuar i h.world w')
    (hcommitted : w'.server.committed = h.tables) : HistoryGuar i h (h.after w') := by
  have htables : (h.after w').tables = h.tables := hcommitted
  refine ⟨hguar, ?_, ?_⟩
  · intro k
    rw [htables]
  · intro j hji k _
    have hvisible : (h.after w').world.visible j = h.world.visible j :=
      visible_congr hcommitted (hguar.changes j hji)
    rw [hvisible]
    exact ⟨rfl, rfl⟩

omit [DecidableEq σ] in
/-- A commit that adds nothing to a consolidated conversation leaves the history complete. -/
theorem HistoryInv.seen_of_commit (hinv : HistoryInv h) (hopen : addsOnlyToOpen i .commit h = true)
    (hcommitted : w'.server.committed = h.world.visible i) (k : Uuid)
    (hconsolidated : consolidatedAtOf k (h.after w').tables ≠ none) :
    turnIds k (h.after w').tables ⊆ (h.after w').covered k := by
  have htables : (h.after w').tables = h.world.visible i := hcommitted
  change _ ⊆ coveredAfter h.covered h.tables (h.after w').tables k
  unfold coveredAfter
  by_cases hmarked : consolidatedAtOf k (h.after w').tables = consolidatedAtOf k h.tables
  · rw [if_neg (fun hboth => hboth.2 hmarked)]
    refine Finset.Subset.trans ?_ (hinv.seen k (fun hnone => hconsolidated (hmarked.trans hnone)))
    intro id hid
    rw [htables] at hid hconsolidated
    rcases (hinv.sessions i).mem_visible_iff.mp hid with hold | ⟨turn, hput, rfl, rfl⟩
    · exact hold
    · have hturn := List.all_eq_true.mp hopen _ hput
      rcases Bool.or_eq_true_iff.mp hturn with hold | hnone
      · exact of_decide_eq_true hold
      · exact absurd (Option.isNone_iff_eq_none.mp hnone) hconsolidated
  · rw [if_pos ⟨hconsolidated, hmarked⟩]

theorem HistoryInv.of_exec (hinv : HistoryInv h) (hready : ReadyFor i op h.world)
    (hopen : addsOnlyToOpen i op h = true)
    (hexec : exec i op delivery h.world = some (reply, w')) :
    HistoryInv (h.after w') ∧ HistoryGuar i h (h.after w') := by
  have hserver := hinv.server.of_exec hexec
  have hguar := hinv.server.guar hexec
  have hothers : w'.server.committed = h.tables → ∀ j ≠ i, TurnsInv w' j := by
    intro hcommitted j hji
    exact (hinv.sessions j).congr hcommitted (hguar.changes j hji) (hguar.writes j hji)
  rcases server_cases hexec with hsame | ⟨stmt, changes, rfl, hexecuted⟩ | ⟨rfl, hcommit⟩ |
    ⟨rfl, hrollback⟩
  · have hcommitted : w'.server.committed = h.tables := congrArg Server.committed hsame
    refine ⟨hinv.of_committed_eq hserver hcommitted ?_, .of_committed_eq hguar hcommitted⟩
    intro j
    refine (hinv.sessions j).congr hcommitted (by rw [hsame]) ?_
    rw [hsame]
    exact fun _ hwrites => hwrites
  · have hcommitted : w'.server.committed = h.tables := hexecuted.committed
    refine ⟨hinv.of_committed_eq hserver hcommitted ?_, .of_committed_eq hguar hcommitted⟩
    intro j
    by_cases hji : j = i
    · subst hji
      exact (hinv.sessions j).of_executed hexecuted hready
    · exact hothers hcommitted j hji
  · have hcommitted : w'.server.committed = h.world.visible i := by
      rw [hcommit]
      rfl
    have hcounted : ∀ k, ((turnIds k w'.server.committed).card : Int) ≤
        turnCountOf k w'.server.committed := by
      rw [hcommitted]
      exact (hinv.sessions i).counted
    refine ⟨⟨hserver, ?_, hcounted, hinv.seen_of_commit hopen hcommitted⟩, ⟨hguar, ?_, ?_⟩⟩
    · intro j
      by_cases hji : j = i
      · subst hji
        refine TurnsInv.of_nil ?_ hcounted
        change w'.server.changes j = []
        rw [hcommit]
        exact Function.update_self ..
      · exact TurnsInv.of_commit hinv.server (hinv.sessions i)
          (hinv.sessions j) hji hexec hcommitted
    · intro k
      change _ ⊆ turnIds k w'.server.committed
      rw [hcommitted]
      exact (hinv.sessions i).kept k
    · intro j hji k hwrites
      exact locked_of_commit hinv.server (hinv.sessions i) hji hexec hcommitted hwrites
  · have hcommitted : w'.server.committed = h.tables := by
      rw [hrollback]
      rfl
    refine ⟨hinv.of_committed_eq hserver hcommitted ?_, .of_committed_eq hguar hcommitted⟩
    intro j
    by_cases hji : j = i
    · subst hji
      refine TurnsInv.of_nil ?_ ?_
      · rw [hrollback]
        exact Function.update_self ..
      · rw [hcommitted]
        exact hinv.counted
    · exact hothers hcommitted j hji

end

end HotAirBalloon.Memory
