import HotAirBalloon.Memory.ConversationCounters
import HotAirBalloon.Memory.ShortTermRetention

/-!
# A purge among calls that append

`purge_expired` selects the conversations that have no turn left, erases their checkpoints, and
deletes them by their ids. A call may revive one in between: its turn then goes with the
conversation. When no turn is committed into a conversation between its selection and its deletion,
a purge removes nothing but expired turns (`unexpired_kept`).
-/

namespace HotAirBalloon.Memory

open Python Library

variable {ι : Type} [DecidableEq ι]

/-! ## What the purge has selected -/

/-- The conversations that a purge has selected and has still to delete, after one more call. -/
def selectedAfter (purge : ι) (selected : List Uuid) (entry : ι × Event) : List Uuid :=
  if entry.1 = purge then
    match entry.2 with
    | ⟨.sql (.selectStaleConversations _), .ok rows⟩ => rows.map (·.id)
    | ⟨.sql (.deleteConversations _), _⟩ | ⟨.rollback, _⟩ => []
    | _ => selected
  else selected

def selectedBy (purge : ι) (log : List (ι × Event)) : List Uuid :=
  log.foldl (selectedAfter purge) []

/-- The other sessions commit no unexpired turn into a conversation that the purge has still to
delete. -/
def leavesSelected (purge : ι) (now : DateTime) (i : ι) (op : Op) (w : World ι) : Bool :=
  match op with
  | .commit => decide (i = purge) || (w.server.changes i).all fun change =>
    match change with
    | .turn (.put turn) => turn.expired now || decide (turn.conversationId ∉ selectedBy purge w.log)
    | _ => true
  | _ => true

/-- The other sessions write new turns, the purge deletes expired ones. -/
structure RaceInv (purge : ι) (now : DateTime) (w : World ι) : Prop where
  server : ServerInv w
  adds : ∀ i, i ≠ purge → ∀ edit, Change.turn edit ∈ w.server.changes i →
    ∃ turn, edit = .put turn ∧ ∀ old ∈ w.server.committed.turns, old.id ≠ turn.id
  erases : ∀ edit, Change.turn edit ∈ w.server.changes purge →
    ∃ turn ∈ w.server.committed.turns, edit = .erase turn.id ∧ turn.expired now = true

/-- What a step leaves of the turns, and of what the purge has selected. -/
structure RaceGuar (purge : ι) (now : DateTime) (i : ι) (w w' : World ι) : Prop where
  changes : ∀ j ≠ i, w'.server.changes j = w.server.changes j
  selected : i ≠ purge → selectedBy purge w'.log = selectedBy purge w.log
  removed : ∀ turn ∈ w.server.committed.turns, turn ∉ w'.server.committed.turns →
    i = purge ∧ turn.expired now = true
  added : i ≠ purge → ∀ turn ∈ w'.server.committed.turns, turn ∈ w.server.committed.turns ∨
    turn.expired now = true ∨ turn.conversationId ∉ selectedBy purge w.log

/-- What a session may rely on: only the purge deletes turns, and only expired ones. -/
def RaceReady (purge : ι) (now : DateTime) (i : ι) (op : Op) (w : World ι) : Prop :=
  match op with
  | .sql (.insertTurn _) => i ≠ purge
  | .sql (.updateTurnExpiry ..) => False
  | .sql (.deleteTurns ids) => i = purge ∧
      ∀ turn ∈ w.server.committed.turns, turn.id ∈ ids → turn.expired now = true
  | .sql (.deleteConversations ids) => i = purge ∧
      ∀ turn ∈ w.server.committed.turns, turn.conversationId ∈ ids → turn.expired now = true
  | _ => True

/-! ## Steps -/

section

variable {purge i j : ι} {now : DateTime} {op : Op} {delivery : Delivery}
  {reply : Except PyError op.Reply} {w w' : World ι}

theorem selectedBy_append (log : List (ι × Event)) (entry : ι × Event) :
    selectedBy purge (log ++ [entry]) = selectedAfter purge (selectedBy purge log) entry := by
  unfold selectedBy
  rw [List.foldl_append]
  rfl

namespace RaceInv

omit [DecidableEq ι] in
theorem idle (tables : Tables) (index : VectorIndex) :
    RaceInv purge now (World.idle tables index : World ι) where
  server := .idle _ _
  adds _ _ _ h := absurd h List.not_mem_nil
  erases _ h := absurd h List.not_mem_nil

omit [DecidableEq ι] in
/-- The purge sees committed turns only. -/
theorem committed_of_visible (h : RaceInv purge now w) {turn : ConversationTurnRecord}
    (hturn : turn ∈ (w.visible purge).turns) : turn ∈ w.server.committed.turns := by
  rcases mem_visible_turns hturn with hput | hold
  · obtain ⟨_, -, heq, -⟩ := h.erases _ hput
    cases heq
  · exact hold

omit [DecidableEq ι] in
/-- A committed turn that the purge does not see has expired. -/
theorem expired_of_not_visible (h : RaceInv purge now w) {turn : ConversationTurnRecord}
    (hturn : turn ∈ w.server.committed.turns) (hgone : turn ∉ (w.visible purge).turns) :
    turn.expired now = true := by
  unfold World.visible Server.visible at hgone
  rw [turns_applyAll] at hgone
  obtain ⟨edit, hedit, htarget⟩ := Table.exists_target_eq hturn hgone
  obtain ⟨erased, hmem, rfl, hexpired⟩ := h.erases edit ((mem_filterMap_turn? _).mp hedit)
  rw [← Table.eq_of_key_eq hmem hturn htarget]
  exact hexpired

omit [DecidableEq ι] in
/-- The other sessions see every committed turn. -/
theorem visible_of_committed (h : RaceInv purge now w) (hi : i ≠ purge)
    {turn : ConversationTurnRecord} (hturn : turn ∈ w.server.committed.turns) :
    turn ∈ (w.visible i).turns := by
  unfold World.visible Server.visible
  rw [turns_applyAll]
  refine Table.mem_applyEdits_of_forall_ne hturn ?_
  intro edit hedit heq
  obtain ⟨added, rfl, hnew⟩ := h.adds i hi edit ((mem_filterMap_turn? _).mp hedit)
  exact hnew turn hturn heq.symm

/-- A statement of a session. -/
theorem of_executed {stmt : Sql} {changes : List Change} (h : RaceInv purge now w)
    (hserver : ServerInv w') (hexecuted : Executed i stmt w w' changes)
    (hready : RaceReady purge now i (.sql stmt) w)
    (hothers : ∀ j ≠ i, w'.server.changes j = w.server.changes j) : RaceInv purge now w' := by
  obtain ⟨a, houtcome⟩ := hexecuted.outcome
  have hchanges : ∀ change, change ∈ w'.server.changes i ↔
      change ∈ w.server.changes i ∨ change ∈ changes := by
    intro change
    rw [hexecuted.changes_eq, Function.update_self, List.mem_append]
  refine ⟨hserver, ?_, ?_⟩
  · intro j hj edit hedit
    rw [hexecuted.committed]
    by_cases hji : j = i
    · subst hji
      rcases (hchanges _).mp hedit with hold | hnew
      · exact h.adds j hj edit hold
      · cases turnEdit houtcome hnew with
        | insert turn =>
          refine ⟨turn, rfl, fun old hold => ?_⟩
          exact (outcome_insertTurn houtcome).2 old (h.visible_of_committed hj hold)
        | expiry mem => exact hready.elim
        | delete mem listed => exact absurd hready.1 hj
        | cascade mem listed => exact absurd hready.1 hj
    · rw [hothers j hji] at hedit
      exact h.adds j hj edit hedit
  · intro edit hedit
    rw [hexecuted.committed]
    by_cases hi : purge = i
    · subst hi
      rcases (hchanges _).mp hedit with hold | hnew
      · exact h.erases edit hold
      · cases turnEdit houtcome hnew with
        | insert turn => exact absurd rfl hready
        | expiry mem => exact hready.elim
        | delete mem listed =>
          have hmem := h.committed_of_visible mem
          exact ⟨_, hmem, rfl, hready.2 _ hmem listed⟩
        | cascade mem listed =>
          have hmem := h.committed_of_visible mem
          exact ⟨_, hmem, rfl, hready.2 _ hmem listed⟩
    · rw [hothers purge hi] at hedit
      exact h.erases edit hedit

omit [DecidableEq ι] in
/-- The turns that a session has added are still new when another session commits. -/
theorem adds_of_commit (h : RaceInv purge now w)
    (hcommitted : w'.server.committed = w.visible i) (hji : j ≠ i) {turn : ConversationTurnRecord}
    (hput : Change.turn (.put turn) ∈ w.server.changes j)
    (hnew : ∀ old ∈ w.server.committed.turns, old.id ≠ turn.id) :
    ∀ old ∈ w'.server.committed.turns, old.id ≠ turn.id := by
  intro old hold heq
  rw [hcommitted] at hold
  rcases mem_visible_turns hold with hwritten | hmem
  · have hi := h.server.writes i _ hwritten
    have hj := h.server.writes j _ hput
    have hkey : (Change.turn (.put old)).lockKey = (Change.turn (.put turn)).lockKey :=
      congrArg LockKey.turn heq
    rw [hkey] at hi
    exact hji (h.server.exclusive.eq_of_writes hj hi)
  · exact hnew old hmem heq

/-- A session commits. -/
theorem of_commit (h : RaceInv purge now w) (hserver : ServerInv w')
    (hexec : exec i op delivery w = some (reply, w')) (hnil : w'.server.changes i = [])
    (hcommitted : w'.server.committed = w.visible i) : RaceInv purge now w' := by
  refine ⟨hserver, ?_, ?_⟩
  · intro j hj edit hedit
    by_cases hji : j = i
    · subst hji
      rw [hnil] at hedit
      cases hedit
    · rw [changes_of_ne hexec hji] at hedit
      obtain ⟨turn, rfl, hnew⟩ := h.adds j hj edit hedit
      exact ⟨turn, rfl, h.adds_of_commit hcommitted hji hedit hnew⟩
  · intro edit hedit
    by_cases hi : purge = i
    · subst hi
      rw [hnil] at hedit
      cases hedit
    · rw [changes_of_ne hexec hi] at hedit
      obtain ⟨turn, hturn, rfl, hexpired⟩ := h.erases edit hedit
      refine ⟨turn, ?_, rfl, hexpired⟩
      rw [hcommitted]
      exact h.visible_of_committed (Ne.symm hi) hturn

theorem of_exec (h : RaceInv purge now w) (hready : RaceReady purge now i op w)
    (hexec : exec i op delivery w = some (reply, w')) : RaceInv purge now w' := by
  have hserver := h.server.of_exec hexec
  have hnothing : w'.server.committed = w.server.committed →
      (∀ j, w'.server.changes j = w.server.changes j ∨ w'.server.changes j = []) →
        RaceInv purge now w' := by
    intro hcommitted hchanges
    refine ⟨hserver, fun j hj edit hedit => ?_, fun edit hedit => ?_⟩
    · rw [hcommitted]
      rcases hchanges j with hsame | hnil
      · exact h.adds j hj edit (hsame ▸ hedit)
      · exact absurd (hnil ▸ hedit) List.not_mem_nil
    · rw [hcommitted]
      rcases hchanges purge with hsame | hnil
      · exact h.erases edit (hsame ▸ hedit)
      · exact absurd (hnil ▸ hedit) List.not_mem_nil
  rcases server_cases hexec with hsame | ⟨stmt, changes, rfl, hexecuted⟩ | ⟨rfl, hcommit⟩ |
    ⟨rfl, hrollback⟩
  · exact hnothing (congrArg Server.committed hsame) (fun j => Or.inl (by rw [hsame]))
  · exact h.of_executed hserver hexecuted hready (fun j hji => changes_of_ne hexec hji)
  · refine h.of_commit hserver hexec ?_ ?_
    · rw [hcommit]
      exact Function.update_self ..
    · rw [hcommit]
      rfl
  · refine hnothing (by rw [hrollback]; rfl) (fun j => ?_)
    by_cases hji : j = i
    · subst hji
      refine Or.inr ?_
      rw [hrollback]
      exact Function.update_self ..
    · exact Or.inl (changes_of_ne hexec hji)

theorem guar (h : RaceInv purge now w) (hleaves : leavesSelected purge now i op w = true)
    (hexec : exec i op delivery w = some (reply, w')) : RaceGuar purge now i w w' where
  changes j hji := changes_of_ne hexec hji
  selected hi := by
    rw [exec_log hexec, selectedBy_append]
    exact if_neg hi
  removed turn hturn hgone := by
    rcases ServerInv.committed_cases hexec with hsame | ⟨-, hcommitted, -⟩
    · rw [hsame] at hgone
      exact absurd hturn hgone
    · rw [hcommitted] at hgone
      by_cases hi : i = purge
      · subst hi
        exact ⟨rfl, h.expired_of_not_visible hturn hgone⟩
      · exact absurd (h.visible_of_committed hi hturn) hgone
  added hi turn hturn := by
    rcases ServerInv.committed_cases hexec with hsame | ⟨rfl, hcommitted, -⟩
    · rw [hsame] at hturn
      exact Or.inl hturn
    · rw [hcommitted] at hturn
      rcases mem_visible_turns hturn with hput | hold
      · refine Or.inr ?_
        unfold leavesSelected at hleaves
        dsimp only at hleaves
        rw [Bool.or_eq_true, decide_eq_true_iff, List.all_eq_true] at hleaves
        rcases hleaves with heq | hall
        · exact absurd heq hi
        · exact (Bool.or_eq_true_iff.mp (hall _ hput)).imp_right of_decide_eq_true
      · exact Or.inl hold

end RaceInv

end

/-! ## Outlines -/

def raceRely (purge : ι) (now : DateTime) : Rely ι PyError Op Op.Reply Delivery (World ι) where
  exec := exec
  cond i op w := leavesSelected purge now i op w = true
  inv := RaceInv purge now
  guar := RaceGuar purge now

section

variable {purge i : ι} {now : DateTime} {α : Type}

theorem raceTriple {P : World ι → Prop} {op : Op} {R : Except PyError op.Reply → World ι → Prop}
    (hready : ∀ w, RaceInv purge now w → P w → RaceReady purge now i op w)
    (hR : ∀ w delivery r w', RaceInv purge now w → P w → exec i op delivery w = some (r, w') →
      R r w') :
    Triple (raceRely purge now) i P op R := by
  intro w delivery r w' hinv hP hcond hexec
  have hinv' := hinv.of_exec (hready w hinv hP) hexec
  exact ⟨hinv', hinv.guar hcond hexec, hR w delivery r w' hinv hP hexec⟩

/-- Only a commit changes the rows that are committed. -/
theorem committed_of_ne_commit {op : Op} {delivery : Delivery} {r : Except PyError op.Reply}
    {w w' : World ι} (hexec : exec i op delivery w = some (r, w')) (hop : op ≠ .commit) :
    w'.server.committed = w.server.committed := by
  rcases ServerInv.committed_cases hexec with hsame | ⟨heq, -⟩
  · exact hsame
  · exact absurd heq hop

/-! ### The calls that append -/

def DeletesNoTurn : Op → Prop
  | .sql (.updateTurnExpiry ..) | .sql (.deleteTurns _) | .sql (.deleteConversations _) => False
  | _ => True

omit [DecidableEq ι] in
theorem raceReady_of_deletesNoTurn (hi : i ≠ purge) {op : Op} (h : DeletesNoTurn op) (w : World ι) :
    RaceReady purge now i op w := by
  cases op with
  | sql stmt =>
    cases stmt with
    | insertTurn => exact hi
    | updateTurnExpiry => exact h
    | deleteTurns => exact h.elim
    | deleteConversations => exact h.elim
    | _ => trivial
  | _ => trivial

theorem outline_deletesNoTurn (hi : i ≠ purge) {p : Action α} (hp : p.Calls DeletesNoTurn) :
    Outline (raceRely purge now) i (fun _ => True) p (fun _ _ => True) := by
  refine Outline.of_calls (fun op hop => ?_) hp
  exact raceTriple (fun w _ _ => raceReady_of_deletesNoTurn hi hop w) (fun _ _ _ _ _ _ _ => trivial)

theorem appends_deletesNoTurn {components : Components} {call : Call} (h : call.appends = true) :
    (call.program components).Calls DeletesNoTurn := by
  have hrow : ∀ {p : Action (Option Uuid)}, p.Calls DeletesNoTurn →
      (p >>= requireRow).Calls DeletesNoTurn :=
    fun h => Prog.Calls.bind h calls_requireRow
  have htransaction : ∀ {body : Action Unit}, body.Calls DeletesNoTurn →
      (transaction body).Calls DeletesNoTurn :=
    fun h => calls_inSession trivial
      (Prog.Calls.bind h fun _ => Prog.Calls.bind (calls_send trivial) fun _ => Prog.Calls.pure _)
  cases call with
  | append conversationId turn ownerUserId turnId =>
    refine Prog.Calls.bind (htransaction ?_) (fun _ => Prog.Calls.pure _)
    refine Prog.Calls.bind (hrow (calls_sql trivial)) (fun _ => ?_)
    refine Prog.Calls.bind (hrow (calls_sql trivial)) (fun _ => ?_)
    exact Prog.Calls.bind (calls_sql trivial) (fun _ => Prog.Calls.pure _)
  | appendCompletedExchange conversationId ownerUserId userTurn assistantTurn evidence userTurnId
      assistantTurnId evidenceId =>
    refine Prog.Calls.bind ?_ (fun _ => Prog.Calls.pure _)
    unfold ConversationStore.appendCompletedExchange
    split
    · exact Prog.Calls.raise _
    refine htransaction ?_
    refine Prog.Calls.bind (hrow (calls_sql trivial)) (fun _ => ?_)
    refine Prog.Calls.bind (Prog.Calls.ofExcept _) (fun evidenceRow => ?_)
    refine Prog.Calls.bind (hrow (calls_sql trivial)) (fun _ => ?_)
    refine Prog.Calls.bind (calls_sql trivial) (fun _ => ?_)
    refine Prog.Calls.bind (calls_sql trivial) (fun _ => ?_)
    cases evidenceRow with
    | none => exact Prog.Calls.pure ()
    | some row => exact Prog.Calls.bind (calls_sql trivial) (fun _ => Prog.Calls.pure ())
  | _ => cases h

/-! ### The purge -/

/-- The turns that the purge has listed are there and have expired. -/
def Listed (now : DateTime) (rows : List ConversationTurnRecord) (w : World ι) : Prop :=
  ∀ row ∈ rows, row ∈ w.server.committed.turns ∧ row.expired now = true

/-- The conversations that the purge has selected have expired turns only. -/
structure Chosen (purge : ι) (now : DateTime) (ids : List Uuid) (w : World ι) : Prop where
  selected : selectedBy purge w.log = ids
  expired : ∀ turn ∈ w.server.committed.turns,
    turn.conversationId ∈ ids → turn.expired now = true

theorem stable_listed (rows : List ConversationTurnRecord) :
    Stable (raceRely purge now) purge (Listed now rows) := by
  intro w w' j hj _ _ hguar hlisted row hrow
  obtain ⟨hmem, hexpired⟩ := hlisted row hrow
  refine ⟨?_, hexpired⟩
  by_contra hgone
  exact hj (hguar.removed row hmem hgone).1

theorem stable_chosen (ids : List Uuid) :
    Stable (raceRely purge now) purge (Chosen purge now ids) := by
  intro w w' j hj _ _ hguar hchosen
  refine ⟨(hguar.selected hj).trans hchosen.selected, fun turn hturn hmem => ?_⟩
  rcases hguar.added hj turn hturn with hold | hexpired | hnew
  · exact hchosen.expired turn hold hmem
  · exact hexpired
  · rw [hchosen.selected] at hnew
    exact absurd hmem hnew

theorem outline_listExpired : Outline (raceRely purge now) purge (fun _ => True)
    (sql (.selectExpiredTurns now)) (okOnly (Listed now)) := by
  refine Outline.perform (fun r => ?_) (raceTriple (fun _ _ _ => trivial) ?_)
  · cases r with
    | ok rows => exact stable_listed rows
    | error e => exact stable_const True
  · intro w delivery r w' hinv _ hexec
    cases r with
    | error e => trivial
    | ok rows =>
      obtain ⟨changes, houtcome⟩ := outcome_of_reply hexec
      cases houtcome
      intro row hrow
      obtain ⟨hvisible, hexpired⟩ := List.mem_filter.mp hrow
      rw [committed_of_ne_commit hexec (by simp)]
      exact ⟨hinv.committed_of_visible hvisible, hexpired⟩

theorem outline_selectStale (cutoff : DateTime) : Outline (raceRely purge now) purge (fun _ => True)
    (sql (.selectStaleConversations cutoff))
    (okOnly fun rows => Chosen purge now (rows.map (·.id))) := by
  refine Outline.perform (fun r => ?_) (raceTriple (fun _ _ _ => trivial) ?_)
  · cases r with
    | ok rows => exact stable_chosen _
    | error e => exact stable_const True
  · intro w delivery r w' hinv _ hexec
    cases r with
    | error e => trivial
    | ok rows =>
      obtain ⟨changes, houtcome⟩ := outcome_of_reply hexec
      refine ⟨?_, fun turn hturn hmem => ?_⟩
      · rw [exec_log hexec, selectedBy_append]
        exact if_pos rfl
      · cases houtcome
        rw [committed_of_ne_commit hexec (by simp)] at hturn
        by_cases hseen : turn ∈ (w.visible purge).turns
        · obtain ⟨row, hrow, hid⟩ := List.mem_map.mp hmem
          obtain ⟨-, hstale⟩ := List.mem_filter.mp hrow
          have hnone := (of_decide_eq_true hstale).2
          rw [Bool.not_eq_true', List.any_eq_false] at hnone
          exact absurd (decide_eq_true hid.symm) (hnone turn hseen)
        · exact hinv.expired_of_not_visible hturn hseen

theorem outline_eraseCheckpoints (job : ShortTermRetentionJob) (conversations : List (Uuid × Uuid))
    (ids : List Uuid) : Outline (raceRely purge now) purge (Chosen purge now ids)
      (job.eraseCheckpoints conversations) (fun _ => Chosen purge now ids) := by
  have hcalls :
      (job.eraseCheckpoints conversations).Calls (fun op => op.isEraseCheckpoint = true) := by
    unfold ShortTermRetentionJob.eraseCheckpoints
    split
    · exact Prog.Calls.forEach (fun _ _ => calls_send rfl)
    · exact Prog.Calls.pure ()
  refine Outline.of_calls_keeping (stable_chosen ids) (fun op hop => ?_) hcalls
  cases op with
  | eraseCheckpoint ownerUserId conversationId =>
    refine raceTriple (fun _ _ _ => trivial) ?_
    intro w delivery r w' _ hchosen hexec
    refine ⟨?_, ?_⟩
    · rw [exec_log hexec, selectedBy_append, ← hchosen.selected]
      exact if_pos rfl
    · rw [committed_of_ne_commit hexec (by simp)]
      exact hchosen.expired
  | _ => cases hop

theorem outline_purgeSession {body : Action α}
    (h : Outline (raceRely purge now) purge (fun _ => True) body (fun _ _ => True)) :
    Outline (raceRely purge now) purge (fun _ => True) (inSession body) (fun _ _ => True) := by
  refine outline_closing h (fun _ => Outline.perform (fun _ => stable_const True) ?_)
  exact raceTriple (fun _ _ _ => trivial) (fun _ _ _ _ _ _ _ => trivial)

theorem outline_purgeExpired (job : ShortTermRetentionJob) : Outline (raceRely purge now) purge
    (fun _ => True) (job.purgeExpired now) (fun _ _ => True) := by
  have hanything : ∀ {op : Op} {P : World ι → Prop},
      (∀ w, RaceInv purge now w → P w → RaceReady purge now purge op w) →
      Outline (raceRely purge now) purge P (send op) (fun _ _ => True) := by
    intro op P hready
    exact Outline.perform (fun _ => stable_const True)
      (raceTriple hready fun _ _ _ _ _ _ _ => trivial)
  have hdone : ∀ {β : Type} (b : β), Outline (raceRely purge now) purge (fun _ => True)
      (pure b : Action β) (fun _ _ => True) :=
    fun b => Outline.pure (fun _ _ _ => trivial)
  refine outline_purgeSession ?_
  refine outline_listExpired.bind (fun rows => ?_) (fun _ _ _ _ => trivial)
  refine Outline.bind (Q := fun _ _ => True) ?_ (fun _ => ?_) (fun _ _ _ _ => trivial)
  · unfold ShortTermRetentionJob.unlessEmpty
    split
    · exact Outline.pure (fun _ _ _ => trivial)
    · refine Outline.bind (hanything ?_) (fun _ => hdone ()) (fun _ _ _ _ => trivial)
      intro w _ hlisted
      refine ⟨rfl, fun turn hturn hmem => ?_⟩
      obtain ⟨row, hrow, hid⟩ := List.mem_map.mp hmem
      obtain ⟨hold, hexpired⟩ := hlisted row hrow
      rw [← Table.eq_of_key_eq hold hturn hid]
      exact hexpired
  refine (outline_selectStale _).bind (fun stale => ?_) (fun _ _ _ _ => trivial)
  refine (outline_eraseCheckpoints job _ _).bind (fun _ => ?_) (fun _ _ _ _ => trivial)
  refine Outline.bind (Q := fun _ _ => True) ?_ (fun _ => ?_) (fun _ _ _ _ => trivial)
  · unfold ShortTermRetentionJob.unlessEmpty
    split
    · exact Outline.pure (fun _ _ _ => trivial)
    · refine Outline.bind (hanything ?_) (fun _ => hdone ()) (fun _ _ _ _ => trivial)
      exact fun w _ hchosen => ⟨rfl, hchosen.expired⟩
  exact Outline.bind (hanything fun _ _ _ => trivial) (fun _ => hdone _) (fun _ _ _ _ => trivial)

end

/-! ## Runs -/

/-- A purge among any number of calls that append, from any tables. A run that commits no turn into
a conversation between its selection and its deletion removes no turn that has not expired. -/
theorem unexpired_kept {ι : Type} [DecidableEq ι] (components : Components) (call : ι → Call)
    (purge : ι) (now : DateTime) (hpurge : call purge = .purgeExpired now)
    (hothers : ∀ i, i ≠ purge → (call i).appends = true) (tables : Tables) (index : VectorIndex)
    {c c' : System ι}
    (hsteps : Steps exec (fun i op w => leavesSelected purge now i op w = true)
      (System.start components call (World.idle tables index)) c)
    (hrest : Steps exec (fun i op w => leavesSelected purge now i op w = true) c c') :
    ∀ turn ∈ c.world.server.committed.turns, turn.expired now = false →
      turn ∈ c'.world.server.committed.turns := by
  have hstart : Covered (raceRely purge now) (fun _ _ _ => True)
      (System.start components call (World.idle tables index)) := by
    refine ⟨RaceInv.idle tables index, fun i => ⟨fun _ => True, stable_const True, trivial, ?_⟩⟩
    show Outline (raceRely purge now) i (fun _ => True) ((call i).program components)
      (fun _ _ => True)
    by_cases hi : i = purge
    · subst hi
      rw [hpurge]
      exact (outline_purgeExpired components.shortTermRetention).bind
        (fun _ => Outline.pure (fun _ _ _ => trivial)) (fun _ _ _ _ => trivial)
    · exact outline_deletesNoTurn hi (appends_deletesNoTurn (hothers i hi))
  have hcovered := hstart.steps hsteps
  intro turn hturn hlive
  induction hrest with
  | refl => exact hturn
  | @tail c₁ c₂ hrest hlast ih =>
    obtain ⟨i, hstep⟩ := hlast
    by_contra hgone
    have hexpired := (((hcovered.steps hrest).step hstep).2.removed turn ih hgone).2
    rw [hlive] at hexpired
    cases hexpired

/-! ### A conversation that is revived -/

/-- A conversation of the first day that has lost its turns. -/
def idleTables : Tables :=
  { Tables.empty with conversations := Table.empty.put ⟨.ofNat 1, .ofNat 10, 0, 0, 0, none, none⟩ }

/-- The owner comes back on the day of the purge. -/
def revivingCalls : Bool → Call
  | false => .purgeExpired (DateTime.days 200)
  | true => .append (.ofNat 1) ⟨"user", "Is the pump running?", DateTime.days 200⟩ (.ofNat 10)
      (.ofNat 104)

def revivedTurn : ConversationTurnRecord :=
  countedComponents.store.turnRecord (.ofNat 104) (.ofNat 1) (.ofNat 10)
    ⟨"user", "Is the pump running?", DateTime.days 200⟩

def revivingStart : System Bool :=
  System.start countedComponents revivingCalls (World.idle idleTables .empty)

theorem revivingCalls_append (i : Bool) (hi : i ≠ false) : (revivingCalls i).appends = true := by
  cases i with
  | false => exact absurd rfl hi
  | true => rfl

/-- The append commits before the purge begins. -/
theorem unexpired_kept_revived : ∃ c c' : System Bool,
    runSchedule exec (fun i op w => leavesSelected false (DateTime.days 200) i op w = true)
      (List.replicate 5 (true, .arrives)) revivingStart = some c ∧
    runSchedule exec (fun i op w => leavesSelected false (DateTime.days 200) i op w = true)
      (List.replicate 4 (false, .arrives)) c = some c' ∧
    c'.programs false = .done (.ok (.count 0)) ∧
    revivedTurn ∈ c.world.server.committed.turns ∧
    revivedTurn ∈ c'.world.server.committed.turns := by
  have hrun : (runSchedule exec
      (fun i op w => leavesSelected false (DateTime.days 200) i op w = true)
      (List.replicate 5 (true, .arrives)) revivingStart).any (fun c =>
        decide (revivedTurn ∈ c.world.server.committed.turns.rows) && (runSchedule exec
          (fun i op w => leavesSelected false (DateTime.days 200) i op w = true)
          (List.replicate 4 (false, .arrives)) c).any (fun c' =>
            decide ((c'.programs false).result? = some (.count 0)))) = true := by
    decide
  obtain ⟨c, hc, hfacts⟩ := (Option.any_eq_true _ _).mp hrun
  obtain ⟨hmem, hrest⟩ := Bool.and_eq_true_iff.mp hfacts
  obtain ⟨c', hc', hdone⟩ := (Option.any_eq_true _ _).mp hrest
  have hturn := Table.mem_def.mpr (of_decide_eq_true hmem)
  exact ⟨c, c', hc, hc', Prog.result?_eq_some.mp (of_decide_eq_true hdone), hturn,
    unexpired_kept countedComponents revivingCalls false
      (DateTime.days 200) rfl revivingCalls_append
      idleTables .empty (steps_of_runSchedule hc) (steps_of_runSchedule hc') revivedTurn hturn
      (by decide)⟩

/-- The purge selects the conversation, the append commits, and the purge deletes. -/
theorem revived_erased : ¬ ∀ (components : Components) (call : Bool → Call) (purge : Bool)
    (now : DateTime) (tables : Tables) (index : VectorIndex) (c c' : System Bool),
    call purge = .purgeExpired now → (∀ i, i ≠ purge → (call i).appends = true) →
    Steps exec always (System.start components call (World.idle tables index)) c →
    Steps exec always c c' →
    ∀ turn ∈ c.world.server.committed.turns, turn.expired now = false →
      turn ∈ c'.world.server.committed.turns := by
  intro hclaim
  have hrun : (runSchedule exec always
      (List.replicate 2 (false, .arrives) ++ List.replicate 5 (true, .arrives)) revivingStart).any
        (fun c => decide (revivedTurn ∈ c.world.server.committed.turns.rows) &&
          (runSchedule exec always (List.replicate 3 (false, .arrives)) c).any (fun c' =>
            decide (revivedTurn ∉ c'.world.server.committed.turns.rows))) = true := by
    decide
  obtain ⟨c, hc, hfacts⟩ := (Option.any_eq_true _ _).mp hrun
  obtain ⟨hmem, hrest⟩ := Bool.and_eq_true_iff.mp hfacts
  obtain ⟨c', hc', hgone⟩ := (Option.any_eq_true _ _).mp hrest
  exact of_decide_eq_true hgone (hclaim countedComponents revivingCalls false (DateTime.days 200)
    idleTables .empty c c' rfl revivingCalls_append (steps_of_runSchedule hc)
    (steps_of_runSchedule hc') revivedTurn (Table.mem_def.mpr (of_decide_eq_true hmem)) (by decide))

end HotAirBalloon.Memory
