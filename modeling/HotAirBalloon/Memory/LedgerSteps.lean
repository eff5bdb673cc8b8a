import HotAirBalloon.Memory.ConversationLedger

/-!
# Sessions that keep the counters exact

A session adds new turns under the lock of their conversation (`LedgerSession`), and it commits when
it is `Settled`: it owes no turn to a conversation that it writes. Such steps keep the counters
exact whatever the other sessions do (`LedgerInv.of_exec`).
-/

namespace HotAirBalloon.Memory

open Python Library

/-! ## Sessions -/

/-- What a session has written so far: new turns under the lock of their conversation. -/
structure LedgerSession (store : ConversationStore) {σ : Type} (w : World σ) (i : σ) : Prop where
  locked : ∀ turn, Change.turn (.put turn) ∈ w.server.changes i →
    w.server.Writes i (.conversation turn.conversationId)
  fresh : ∀ turn, Change.turn (.put turn) ∈ w.server.changes i →
    ∀ old ∈ w.server.committed.turns, old.id ≠ turn.id
  expires : ∀ turn, Change.turn (.put turn) ∈ w.server.changes i → store.Expires turn
  referenced : Referenced (w.visible i)

/-- A session owes no turn to a conversation that it writes. -/
def Settled {σ : Type} (i : σ) (w : World σ) : Prop :=
  ∀ k, w.server.Writes i (.conversation k) → Ahead k 0 w.server.committed (w.visible i)

/-- What a call may rely on: a new turn is added under the lock of its conversation by a session
that has removed none, and a session that commits owes no turn. -/
def LedgerReady (store : ConversationStore) {σ : Type} (i : σ) (op : Op) (w : World σ) : Prop :=
  match op with
  | .sql (.insertTurn row) => w.server.Writes i (.conversation row.conversationId) ∧
      store.Expires row ∧ ∀ id, Change.turn (.erase id) ∉ w.server.changes i
  | .sql (.updateTurnExpiry ..) => False
  | .commit => Settled i w
  | _ => True

/-- The counters are exact, and each session has written new turns only. -/
structure LedgerInv (store : ConversationStore) {σ : Type} (h : Ledger σ) : Prop where
  server : ServerInv h.world
  sessions : ∀ i, LedgerSession store h.world i
  exact : CountersExact store h

/-- What a step of a session leaves to the others, and to the conversations. -/
structure LedgerGuar {σ : Type} (i : σ) (h h' : Ledger σ) : Prop where
  session : SessionGuar i h.world h'.world
  changed : ∀ j ≠ i, h'.changed j = h.changed j
  ahead : ∀ j ≠ i, ∀ k owed, h.world.server.Writes j (.conversation k) →
    Ahead k owed h.tables (h.world.visible j) → Ahead k owed h'.tables (h'.world.visible j)
  later : ∀ row ∈ h.tables.conversations, ∀ row' ∈ h'.tables.conversations, row'.id = row.id →
    row.lastTurnAt ≤ row'.lastTurnAt

section

variable {σ : Type} {store : ConversationStore} {i j : σ} {w w' : World σ} {k : Uuid}

/-- The turns that a session sees are committed, or the session has written them. -/
theorem mem_visible_turns {turn : ConversationTurnRecord} (h : turn ∈ (w.visible i).turns) :
    Change.turn (.put turn) ∈ w.server.changes i ∨ turn ∈ w.server.committed.turns := by
  unfold World.visible Server.visible at h
  rw [turns_applyAll] at h
  exact (Table.put_or_mem h).imp_left (mem_filterMap_turn? _).mp

theorem mem_visible_conversations {row : AssistantConversationRecord}
    (h : row ∈ (w.visible i).conversations) :
    Change.conversation (.put row) ∈ w.server.changes i ∨
      row ∈ w.server.committed.conversations := by
  unfold World.visible Server.visible at h
  rw [conversations_applyAll] at h
  exact (Table.put_or_mem h).imp_left (mem_filterMap_conversation? _).mp

/-- A session that does not write a conversation sees what is committed of it. -/
theorem ahead_of_unlocked (hserver : ServerInv w) (hsession : LedgerSession store w i)
    (hunlocked : ¬ w.server.Writes i (.conversation k)) :
    Ahead k 0 w.server.committed (w.visible i) := by
  refine Ahead.of_committed ?_ ?_
  · intro row hrow hid
    rcases mem_visible_conversations hrow with hput | hold
    · refine absurd ?_ hunlocked
      rw [← hid]
      exact hserver.writes i _ hput
    · exact hold
  · intro turn hturn hconversation
    rcases mem_visible_turns hturn with hput | hold
    · refine absurd ?_ hunlocked
      rw [← hconversation]
      exact hsession.locked turn hput
    · exact hold

theorem Settled.ahead (h : Settled i w) (hserver : ServerInv w) (hsession : LedgerSession store w i)
    (k : Uuid) : Ahead k 0 w.server.committed (w.visible i) := by
  by_cases hlocked : w.server.Writes i (.conversation k)
  · exact h k hlocked
  · exact ahead_of_unlocked hserver hsession hlocked

/-- A session that nothing has happened to. -/
theorem LedgerSession.congr (h : LedgerSession store w i)
    (hcommitted : w'.server.committed = w.server.committed)
    (hchanges : w'.server.changes i = w.server.changes i)
    (hwrites : ∀ key, w.server.Writes i key → w'.server.Writes i key) :
    LedgerSession store w' i := by
  refine ⟨?_, ?_, ?_, ?_⟩
  · rw [hchanges]
    exact fun turn hput => hwrites _ (h.locked turn hput)
  · rw [hchanges, hcommitted]
    exact h.fresh
  · rw [hchanges]
    exact h.expires
  · rw [visible_congr hcommitted hchanges]
    exact h.referenced

/-- A session without changes. -/
theorem LedgerSession.of_nil (hchanges : w.server.changes i = [])
    (href : Referenced w.server.committed) : LedgerSession store w i := by
  have hnone : ∀ turn, Change.turn (.put turn) ∉ w.server.changes i := by
    intro turn
    rw [hchanges]
    exact List.not_mem_nil
  refine ⟨?_, ?_, ?_, ?_⟩
  · exact fun turn hput => absurd hput (hnone turn)
  · exact fun turn hput => absurd hput (hnone turn)
  · exact fun turn hput => absurd hput (hnone turn)
  · rw [visible_of_nil hchanges]
    exact href

variable [DecidableEq σ]

theorem LedgerSession.of_executed {stmt : Sql} {changes : List Change}
    (h : LedgerSession store w i) (hexecuted : Executed i stmt w w' changes)
    (hready : LedgerReady store i (.sql stmt) w) : LedgerSession store w' i := by
  obtain ⟨a, houtcome⟩ := hexecuted.outcome
  have hput : ∀ turn, Change.turn (.put turn) ∈ w'.server.changes i →
      Change.turn (.put turn) ∈ w.server.changes i ∨
        (stmt = .insertTurn turn ∧ ∀ old ∈ (w.visible i).turns, old.id ≠ turn.id) := by
    intro turn hmem
    rw [hexecuted.changes_eq, Function.update_self, List.mem_append] at hmem
    refine hmem.imp_right (fun hnew => ?_)
    cases turnEdit houtcome hnew with
    | insert => exact ⟨rfl, (outcome_insertTurn houtcome).2⟩
    | expiry mem => exact hready.elim
  refine ⟨?_, ?_, ?_, ?_⟩
  · intro turn hmem
    apply hexecuted.keeps_writes
    rcases hput turn hmem with hold | ⟨rfl, -⟩
    · exact h.locked turn hold
    · exact hready.1
  · intro turn hmem old hold heq
    rw [hexecuted.committed] at hold
    rcases hput turn hmem with holdPut | ⟨rfl, hnew⟩
    · exact h.fresh turn holdPut old hold heq
    · -- the session has removed no turn, so it would see the old one
      obtain ⟨-, -, hkept⟩ := hready
      have hgone : old ∉ (w.visible i).turns := fun hseen => hnew old hseen heq
      unfold World.visible Server.visible at hgone
      rw [turns_applyAll] at hgone
      obtain ⟨edit, hedit, htarget⟩ := Table.exists_target_eq hold hgone
      rw [mem_filterMap_turn?] at hedit
      cases edit with
      | put written => exact h.fresh written hedit old hold htarget.symm
      | erase id => exact hkept id hedit
  · intro turn hmem
    rcases hput turn hmem with hold | ⟨rfl, -⟩
    · exact h.expires turn hold
    · exact hready.2.1
  · rw [hexecuted.visible]
    exact referenced_of_outcome houtcome h.referenced

/-! ### The steps of another session -/

omit [DecidableEq σ] in
/-- A turn that a session sees as new is one that it has written. -/
theorem written_of_mem_newTurns {turn : ConversationTurnRecord}
    (h : turn ∈ newTurns k w.server.committed (w.visible i)) :
    Change.turn (.put turn) ∈ w.server.changes i := by
  obtain ⟨hturn, hconversation, hnew⟩ := mem_newTurns.mp h
  rcases mem_visible_turns hturn with hput | hold
  · exact hput
  · exact absurd (mem_turnIds.mpr ⟨turn, hold, hconversation, rfl⟩) hnew

variable {op : Op} {delivery : Delivery} {reply : Except PyError op.Reply}

/-- A session sees the turns that it has locked as before. -/
theorem visible_turns_iff (hserver : ServerInv w) (hexec : exec i op delivery w = some (reply, w'))
    (hji : j ≠ i) {turn : ConversationTurnRecord} (hlocked : w.server.Writes j (.turn turn.id)) :
    turn ∈ (w'.visible j).turns ↔ turn ∈ (w.visible j).turns := by
  unfold World.visible Server.visible
  rw [turns_applyAll, turns_applyAll, changes_of_ne hexec hji]
  exact Table.mem_applyEdits_congr (hserver.turns_iff hexec hji hlocked)

/-- And the conversations. -/
theorem visible_conversations_iff (hserver : ServerInv w)
    (hexec : exec i op delivery w = some (reply, w')) (hji : j ≠ i)
    {row : AssistantConversationRecord} (hlocked : w.server.Writes j (.conversation row.id)) :
    row ∈ (w'.visible j).conversations ↔ row ∈ (w.visible j).conversations := by
  unfold World.visible Server.visible
  rw [conversations_applyAll, conversations_applyAll, changes_of_ne hexec hji]
  exact Table.mem_applyEdits_congr (hserver.conversations_iff hexec hji hlocked)

/-- The turns that a session has added stay new. -/
theorem newTurns_perm (hserver : ServerInv w) (hexec : exec i op delivery w = some (reply, w'))
    (hji : j ≠ i) : (newTurns k w'.server.committed (w'.visible j)).Perm
      (newTurns k w.server.committed (w.visible j)) := by
  have hiff : ∀ turn, Change.turn (.put turn) ∈ w.server.changes j →
      (turn ∈ newTurns k w'.server.committed (w'.visible j) ↔
        turn ∈ newTurns k w.server.committed (w.visible j)) := by
    intro turn hput
    have hlocked : w.server.Writes j (.turn turn.id) := hserver.writes j _ hput
    have hold : turn.id ∈ turnIds k w'.server.committed ↔
        turn.id ∈ turnIds k w.server.committed := by
      have hrow : ∀ row : ConversationTurnRecord, row.id = turn.id →
          (row ∈ w'.server.committed.turns ↔ row ∈ w.server.committed.turns) := by
        intro row hid
        refine hserver.turns_iff hexec hji ?_
        rw [hid]
        exact hlocked
      rw [mem_turnIds, mem_turnIds]
      constructor
      · rintro ⟨row, hmem, hconversation, hid⟩
        exact ⟨row, (hrow row hid).mp hmem, hconversation, hid⟩
      · rintro ⟨row, hmem, hconversation, hid⟩
        exact ⟨row, (hrow row hid).mpr hmem, hconversation, hid⟩
    rw [mem_newTurns, mem_newTurns, visible_turns_iff hserver hexec hji hlocked, hold]
  refine (List.perm_ext_iff_of_nodup (nodup_newTurns ..) (nodup_newTurns ..)).mpr ?_
  intro turn
  constructor
  · intro hmem
    have hput := written_of_mem_newTurns hmem
    rw [changes_of_ne hexec hji] at hput
    exact (hiff turn hput).mp hmem
  · intro hmem
    exact (hiff turn (written_of_mem_newTurns hmem)).mpr hmem

/-- A session stays ahead of a conversation that it writes. -/
theorem Ahead.of_other {owed : Int} (h : Ahead k owed w.server.committed (w.visible j))
    (hserver : ServerInv w) (hexec : exec i op delivery w = some (reply, w')) (hji : j ≠ i)
    (hlocked : w.server.Writes j (.conversation k)) :
    Ahead k owed w'.server.committed (w'.visible j) := by
  refine h.congr ?_ ?_ (newTurns_perm hserver hexec hji)
  · rintro row rfl
    exact hserver.conversations_iff hexec hji hlocked
  · rintro row rfl
    exact visible_conversations_iff hserver hexec hji hlocked

/-- Another session commits: no turn that a session sees has lost its conversation. -/
theorem referenced_of_commit (hserver : ServerInv w) (hi : LedgerSession store w i)
    (hj : LedgerSession store w j) (hji : j ≠ i)
    (hexec : exec i op delivery w = some (reply, w'))
    (hcommitted : w'.server.committed = w.visible i) : Referenced (w'.visible j) := by
  intro turn hturn
  have hchanges := changes_of_ne hexec hji
  -- what the session has locked it sees as before
  have hseen : ∀ row : AssistantConversationRecord, w.server.Writes j (.conversation row.id) →
      row ∈ (w.visible j).conversations → row ∈ (w'.visible j).conversations :=
    fun row hlocked => (visible_conversations_iff hserver hexec hji hlocked).mpr
  have hown : w.server.Writes j (.conversation turn.conversationId) →
      turn ∈ (w.visible j).turns →
        ∃ row ∈ (w'.visible j).conversations, row.ownerKey = turn.ownerKey := by
    intro hlocked hold
    obtain ⟨row, hrow, hkey⟩ := hj.referenced turn hold
    refine ⟨row, hseen row ?_ hrow, hkey⟩
    have hid : row.id = turn.conversationId := congrArg Prod.fst hkey
    rw [hid]
    exact hlocked
  by_cases hput : Change.turn (.put turn) ∈ w.server.changes j
  · have hlocked : w.server.Writes j (.turn turn.id) := hserver.writes j _ hput
    exact hown (hj.locked turn hput) ((visible_turns_iff hserver hexec hji hlocked).mp hturn)
  · have hmem : turn ∈ w'.server.committed.turns := by
      rcases mem_visible_turns hturn with hwritten | hmem
      · rw [hchanges] at hwritten
        exact absurd hwritten hput
      · exact hmem
    have huntouched : ∀ edit ∈ (w.server.changes j).filterMap Change.turn?,
        edit.target ≠ turn.id := by
      unfold World.visible Server.visible at hturn
      rw [turns_applyAll, hchanges] at hturn
      refine Table.target_ne_of_mem hturn ?_
      rw [mem_filterMap_turn?]
      exact hput
    by_cases hlocked : w.server.Writes j (.conversation turn.conversationId)
    · -- the other session has added no turn to it
      refine hown hlocked ?_
      have hold : turn ∈ w.server.committed.turns := by
        rw [hcommitted] at hmem
        rcases mem_visible_turns hmem with hwritten | hold
        · exact absurd (hserver.exclusive.eq_of_writes hlocked (hi.locked turn hwritten)) hji
        · exact hold
      unfold World.visible Server.visible
      rw [turns_applyAll]
      exact Table.mem_applyEdits_of_forall_ne hold huntouched
    · -- the session has not written it: it sees what is committed
      rw [hcommitted] at hmem
      obtain ⟨row, hrow, hkey⟩ := hi.referenced turn hmem
      rw [← hcommitted] at hrow
      refine ⟨row, ?_, hkey⟩
      unfold World.visible Server.visible
      rw [conversations_applyAll, hchanges]
      refine Table.mem_applyEdits_of_forall_ne hrow ?_
      intro edit hedit htarget
      apply hlocked
      have hid : row.id = turn.conversationId := congrArg Prod.fst hkey
      rw [← hid, ← htarget]
      exact hserver.writes j _ ((mem_filterMap_conversation? _).mp hedit)

theorem LedgerSession.of_commit (hserver : ServerInv w) (hi : LedgerSession store w i)
    (hj : LedgerSession store w j) (hji : j ≠ i)
    (hexec : exec i op delivery w = some (reply, w'))
    (hcommitted : w'.server.committed = w.visible i) : LedgerSession store w' j := by
  have hchanges := changes_of_ne hexec hji
  refine ⟨?_, ?_, ?_, referenced_of_commit hserver hi hj hji hexec hcommitted⟩
  · rw [hchanges]
    exact fun turn hput => writes_of_ne hexec hji (hj.locked turn hput)
  · rw [hchanges]
    intro turn hput old hold heq
    have hlocked : w.server.Writes j (.turn turn.id) := hserver.writes j _ hput
    rw [← heq] at hlocked
    exact hj.fresh turn hput old ((hserver.turns_iff hexec hji hlocked).mp hold) heq
  · rw [hchanges]
    exact hj.expires

end

/-! ## Steps -/

section

variable {σ : Type} [DecidableEq σ] {store : ConversationStore} {i j : σ} {h : Ledger σ}
  {w' : World σ} {op : Op} {delivery : Delivery} {reply : Except PyError op.Reply}

theorem changed_of_committed_eq (hcommitted : w'.server.committed = h.tables) :
    (h.after i w').changed = h.changed := by
  show (if sameRows h.tables w'.server.committed then h.changed
    else Function.update h.changed i true) = h.changed
  rw [hcommitted]
  exact if_pos (decide_eq_true ⟨rfl, rfl⟩)

theorem changed_of_ne (hji : j ≠ i) : (h.after i w').changed j = h.changed j := by
  show (if sameRows h.tables w'.server.committed then h.changed
    else Function.update h.changed i true) j = h.changed j
  split
  · rfl
  · exact Function.update_of_ne hji _ _

/-- A step that commits nothing. -/
theorem CountersExact.of_committed_eq (hexact : CountersExact store h)
    (hcommitted : w'.server.committed = h.tables) : CountersExact store (h.after i w') := by
  have htables : (h.after i w').tables = h.tables := hcommitted
  have happended : ∀ row ∈ h.tables.conversations,
      (h.after i w').appended row.id = h.appended row.id := by
    intro row hrow
    show appendedAfter h.appended h.tables w'.server.committed row.id = _
    rw [hcommitted]
    exact appendedAfter_self hrow
  refine ⟨?_, ?_, ?_, ?_, ?_⟩
  · rw [htables]
    intro row hrow
    rw [happended row hrow]
    exact hexact.counted row hrow
  · rw [htables]
    intro row hrow
    rw [happended row hrow]
    exact hexact.touched row hrow
  · rw [htables]
    exact hexact.referenced
  · rw [htables]
    intro turn hturn
    obtain ⟨row, hrow, hkey⟩ := hexact.referenced turn hturn
    have hid : row.id = turn.conversationId := congrArg Prod.fst hkey
    rw [← hid, happended row hrow, hid]
    exact hexact.stored turn hturn
  · rw [htables]
    exact hexact.expires

/-- A session that is settled commits. -/
theorem CountersExact.of_commit (hinv : LedgerInv store h) (hsettled : Settled i h.world)
    (hcommitted : w'.server.committed = h.world.visible i) :
    CountersExact store (h.after i w') := by
  have htables : (h.after i w').tables = h.world.visible i := hcommitted
  have hsession := hinv.sessions i
  have hahead := hsettled.ahead hinv.server hsession
  have happended : ∀ k, (h.after i w').appended k =
      (if (h.tables.conversations.find? k).isSome then h.appended k else []) ++
        newTurns k h.tables (h.world.visible i) := by
    intro k
    rw [← htables]
    rfl
  have hbefore : ∀ k, turnCountOf k h.tables =
      ((if (h.tables.conversations.find? k).isSome then h.appended k else []).length : Int) := by
    intro k
    cases hfind : h.tables.conversations.find? k with
    | none =>
      unfold turnCountOf
      rw [hfind]
      rfl
    | some old =>
      obtain ⟨hold, rfl⟩ := Table.find?_eq_some_iff.mp hfind
      rw [turnCountOf_eq hold]
      exact hinv.exact.counted old hold
  refine ⟨?_, ?_, ?_, ?_, ?_⟩
  · rw [htables]
    intro row hrow
    have hcounted := (hahead row.id).counted row hrow rfl
    rw [happended, List.length_append, hcounted, add_zero]
    push_cast
    rw [← hbefore]
    rfl
  · rw [htables]
    intro row hrow turn hturn
    rw [happended] at hturn
    rcases List.mem_append.mp hturn with hold | hnew
    · cases hfind : h.tables.conversations.find? row.id with
      | none =>
        rw [hfind] at hold
        cases hold
      | some old =>
        rw [hfind] at hold
        obtain ⟨hmem, hid⟩ := Table.find?_eq_some_iff.mp hfind
        have hlater := (hahead row.id).later row hrow rfl old hmem hid
        rw [← hid] at hold
        exact (hinv.exact.touched old hmem turn hold).trans hlater
    · exact (hahead row.id).touched row hrow rfl turn hnew
  · rw [htables]
    exact hsession.referenced
  · rw [htables]
    intro turn hturn
    rw [happended]
    by_cases hnew : turn.id ∈ turnIds turn.conversationId h.tables
    · apply List.mem_append_left
      have hold : turn ∈ h.tables.turns := by
        rcases mem_visible_turns hturn with hput | hold
        · obtain ⟨old, hmem, -, hid⟩ := mem_turnIds.mp hnew
          exact absurd hid (hsession.fresh turn hput old hmem)
        · exact hold
      obtain ⟨row, hrow, hkey⟩ := hinv.exact.referenced turn hold
      have hfind : h.tables.conversations.find? turn.conversationId = some row :=
        Table.find?_eq_some_iff.mpr ⟨hrow, congrArg Prod.fst hkey⟩
      rw [hfind]
      exact hinv.exact.stored turn hold
    · exact List.mem_append_right _ (mem_newTurns.mpr ⟨hturn, rfl, hnew⟩)
  · rw [htables]
    intro turn hturn
    rcases mem_visible_turns hturn with hput | hold
    · exact hsession.expires turn hput
    · exact hinv.exact.expires turn hold

theorem LedgerGuar.of_exec (hinv : LedgerInv store h) (hready : LedgerReady store i op h.world)
    (hexec : exec i op delivery h.world = some (reply, w')) : LedgerGuar i h (h.after i w') where
  session := hinv.server.guar hexec
  changed _ := changed_of_ne
  ahead _ hji _ _ hlocked hahead := hahead.of_other hinv.server hexec hji hlocked
  later := by
    intro row hrow row' hrow' hid
    rcases ServerInv.committed_cases hexec with hsame | ⟨rfl, hcommitted, -⟩
    · have hrow'' : row' ∈ w'.server.committed.conversations := hrow'
      rw [hsame] at hrow''
      rw [Table.eq_of_key_eq hrow'' hrow hid]
    · have hsettled : Settled i h.world := hready
      have hseen : row' ∈ w'.server.committed.conversations := hrow'
      rw [hcommitted] at hseen
      exact (hsettled.ahead hinv.server (hinv.sessions i) row.id).later row' hseen hid row hrow rfl

theorem LedgerInv.of_exec (hinv : LedgerInv store h) (hready : LedgerReady store i op h.world)
    (hexec : exec i op delivery h.world = some (reply, w')) :
    LedgerInv store (h.after i w') ∧ LedgerGuar i h (h.after i w') := by
  refine ⟨?_, LedgerGuar.of_exec hinv hready hexec⟩
  have hserver := hinv.server.of_exec hexec
  have hguar := hinv.server.guar hexec
  have hothers : w'.server.committed = h.tables → ∀ j ≠ i, LedgerSession store w' j :=
    fun hcommitted j hji =>
      (hinv.sessions j).congr hcommitted (hguar.changes j hji) (hguar.writes j hji)
  rcases server_cases hexec with hsame | ⟨stmt, changes, rfl, hexecuted⟩ | ⟨rfl, hcommit⟩ |
    ⟨rfl, hrollback⟩
  · have hcommitted : w'.server.committed = h.tables := congrArg Server.committed hsame
    refine ⟨hserver, ?_, hinv.exact.of_committed_eq hcommitted⟩
    intro j
    show LedgerSession store w' j
    refine (hinv.sessions j).congr hcommitted (by rw [hsame]) ?_
    rw [hsame]
    exact fun _ hwrites => hwrites
  · have hcommitted : w'.server.committed = h.tables := hexecuted.committed
    refine ⟨hserver, ?_, hinv.exact.of_committed_eq hcommitted⟩
    intro j
    by_cases hji : j = i
    · subst hji
      exact (hinv.sessions j).of_executed hexecuted hready
    · exact hothers hcommitted j hji
  · have hcommitted : w'.server.committed = h.world.visible i := by
      rw [hcommit]
      rfl
    refine ⟨hserver, ?_, CountersExact.of_commit hinv hready hcommitted⟩
    intro j
    by_cases hji : j = i
    · subst hji
      refine LedgerSession.of_nil ?_ ?_
      · show w'.server.changes j = []
        rw [hcommit]
        exact Function.update_self ..
      · show Referenced w'.server.committed
        rw [hcommitted]
        exact (hinv.sessions j).referenced
    · exact LedgerSession.of_commit hinv.server (hinv.sessions i) (hinv.sessions j) hji hexec
        hcommitted
  · have hcommitted : w'.server.committed = h.tables := by
      rw [hrollback]
      rfl
    refine ⟨hserver, ?_, hinv.exact.of_committed_eq hcommitted⟩
    intro j
    by_cases hji : j = i
    · subst hji
      refine LedgerSession.of_nil ?_ ?_
      · show w'.server.changes j = []
        rw [hrollback]
        exact Function.update_self ..
      · show Referenced w'.server.committed
        rw [hcommitted]
        exact hinv.exact.referenced
    · exact hothers hcommitted j hji

omit [DecidableEq σ] in
theorem LedgerInv.start (index : VectorIndex) :
    LedgerInv store (Ledger.start index : Ledger σ) where
  server := .idle _ _
  sessions _ := .of_nil rfl (fun turn hturn => absurd hturn (Table.not_mem_empty turn))
  exact := {
    counted := fun row hrow => absurd hrow (Table.not_mem_empty row)
    touched := fun row hrow => absurd hrow (Table.not_mem_empty row)
    referenced := fun turn hturn => absurd hturn (Table.not_mem_empty turn)
    stored := fun turn hturn => absurd hturn (Table.not_mem_empty turn)
    expires := fun turn hturn => absurd hturn (Table.not_mem_empty turn) }

end

end HotAirBalloon.Memory
