import HotAirBalloon.Memory.FailingCalls
import HotAirBalloon.Memory.Isolation

/-!
# Short-term retention

What one run of `purge_expired` deletes when no other session is active and only the checkpoint
eraser may fail. The erasures stand between the statements and the commit: when one of them raises,
the session is closed and nothing was deleted; otherwise every conversation that lost a turn, or was
deleted, had its checkpoints erased once before the commit.
-/

namespace HotAirBalloon.Memory

open Python Library ShortTermRetentionJob

variable {ι : Type} [DecidableEq ι] {i : ι} {t v : Tables} {x : VectorIndex} {w : World ι}

/-! ## What a purge shall do -/

def Op.isEraseCheckpoint : Op → Bool
  | eraseCheckpoint .. => true
  | _ => false

/-- The owner and the conversation whose checkpoints a call erases. -/
def Event.erased? (event : Event) : Option (Uuid × Uuid) :=
  match event.op with
  | .eraseCheckpoint ownerUserId conversationId => some (ownerUserId, conversationId)
  | _ => none

def erasedCheckpoints (log : List (ι × Event)) : List (Uuid × Uuid) :=
  log.filterMap (fun entry => entry.2.erased?)

/-- `expires_at` is before `now`. -/
def ConversationTurnRecord.expired (now : DateTime) (turn : ConversationTurnRecord) : Bool :=
  turn.expiresAt.any (· < now)

/-- The conversation is idle since before the cutoff, and its turns have all expired. -/
def Stale (job : ShortTermRetentionJob) (now : DateTime) (t : Tables)
    (conversation : AssistantConversationRecord) : Prop :=
  conversation.lastTurnAt < now - DateTime.days job.assistantConversationRetentionDays ∧
    ∀ turn ∈ t.turns, turn.conversationId = conversation.id → turn.expired now = true

/-- Exactly the expired turns, the stale conversations and the evidence of these are gone. -/
structure Purged (job : ShortTermRetentionJob) (now : DateTime) (t t' : Tables) : Prop where
  turns : ∀ turn, turn ∈ t'.turns ↔ turn ∈ t.turns ∧ turn.expired now = false
  conversations : ∀ conversation, conversation ∈ t'.conversations ↔
    conversation ∈ t.conversations ∧ ¬ Stale job now t conversation
  evidence : ∀ row, row ∈ t'.evidence ↔ row ∈ t.evidence ∧
    ∀ conversation ∈ t.conversations, Stale job now t conversation →
      conversation.ownerKey ≠ row.ownerKey
  memories : t'.memories = t.memories
  candidates : t'.candidates = t.candidates

/-- A conversation of an owner that lost a turn or was deleted. -/
def Affected (job : ShortTermRetentionJob) (now : DateTime) (t : Tables)
    (pair : Uuid × Uuid) : Prop :=
  (∃ turn ∈ t.turns, turn.expired now = true ∧ (turn.ownerUserId, turn.conversationId) = pair) ∨
    ∃ conversation ∈ t.conversations, Stale job now t conversation ∧
      (conversation.ownerUserId, conversation.id) = pair

/-- Some call to the eraser raised. -/
def EraserRaised (log : List (ι × Event)) : Prop :=
  ∃ entry ∈ log, entry.2.erased?.isSome = true ∧ entry.2.raises = true

/-- What a run of `purge_expired` has done. -/
structure PurgeExact (i : ι) (job : ShortTermRetentionJob) (now : DateTime) (t : Tables)
    (r : Except PyError Nat) (w' : World ι) : Prop where
  /-- It returns unless a call to the eraser raises. -/
  returns : ¬ EraserRaised w'.log → r = .ok (t.turns.rows.countP (·.expired now))
  /-- When it returns, it has deleted what it shall. -/
  purged : ∀ n, r = .ok n → Purged job now t w'.server.committed
  /-- The eraser was called before the commit, once for every affected conversation. -/
  erased : ∀ n, r = .ok n → job.hasCheckpointEraser = true →
    ∃ before after, w'.log = before ++ (i, ⟨.commit, .ok ()⟩) :: after ∧
      (erasedCheckpoints before).Nodup ∧
      (∀ pair, pair ∈ erasedCheckpoints before ↔ Affected job now t pair) ∧
      erasedCheckpoints after = []
  /-- A job without an eraser calls none. -/
  unerased : job.hasCheckpointEraser = false → erasedCheckpoints w'.log = []
  /-- When a call to the eraser raises, nothing was deleted. -/
  raised : EraserRaised w'.log → w'.server.committed = t

/-! ## The log of a purge -/

/-- The calls to the eraser so far; none of them raised. -/
structure Erasing (log : List (ι × Event)) (pairs : List (Uuid × Uuid)) : Prop where
  erased : erasedCheckpoints log = pairs
  answered : ¬ EraserRaised log

section

omit [DecidableEq ι]

theorem Event.erased?_eq_none {event : Event} (h : event.op.isEraseCheckpoint = false) :
    event.erased? = none := by
  unfold Event.erased?
  cases hop : event.op with
  | eraseCheckpoint ownerUserId conversationId =>
    rw [hop] at h
    cases h
  | _ => rfl

theorem Erasing.append {log events : List (ι × Event)} {pairs pairs' : List (Uuid × Uuid)}
    (h : Erasing log pairs) (h' : Erasing events pairs') :
    Erasing (log ++ events) (pairs ++ pairs') := by
  refine ⟨?_, ?_⟩
  · unfold erasedCheckpoints
    rw [List.filterMap_append]
    exact congrArg₂ _ h.erased h'.erased
  · rintro ⟨entry, hentry, hraised⟩
    rcases List.mem_append.mp hentry with hold | hnew
    · exact h.answered ⟨entry, hold, hraised⟩
    · exact h'.answered ⟨entry, hnew, hraised⟩

/-- Calls of other kinds. -/
theorem Erasing.others {events : List Event}
    (h : ∀ event ∈ events, event.op.isEraseCheckpoint = false) :
    Erasing (events.map (fun event => (i, event))) [] := by
  have hnone : ∀ entry ∈ events.map (fun event => (i, event)), entry.2.erased? = none := by
    intro entry hentry
    obtain ⟨event, hevent, rfl⟩ := List.mem_map.mp hentry
    exact Event.erased?_eq_none (h event hevent)
  refine ⟨List.filterMap_eq_nil_iff.mpr hnone, ?_⟩
  rintro ⟨entry, hentry, hsome, -⟩
  rw [hnone entry hentry] at hsome
  cases hsome

/-- A call to the eraser that returned. -/
theorem Erasing.single (ownerUserId conversationId : Uuid) :
    Erasing [(i, ⟨.eraseCheckpoint ownerUserId conversationId, .ok ()⟩)]
      [(ownerUserId, conversationId)] := by
  refine ⟨rfl, ?_⟩
  rintro ⟨entry, hentry, -, hraises⟩
  rw [List.mem_singleton.mp hentry] at hraises
  cases hraises

end

/-- The eraser of a run may fail; every other call arrives. -/
abbrev FinishesErasing {α : Type} (i : ι) (pattern : FailurePattern) (p : Action α) (w : World ι)
    (Q : Except PyError α → World ι → Prop) : Prop :=
  Finishes (failingOn Op.isEraseCheckpoint) i pattern p w Q

/-- The calls to the eraser since a point of the log. -/
def ErasingSince (start log : List (ι × Event)) (pairs : List (Uuid × Uuid)) : Prop :=
  ∃ events, log = start ++ events ∧ Erasing events pairs

section

variable {pattern : FailurePattern} {pairs : List (Uuid × Uuid)} {start : List (ι × Event)}

/-- A part of the run that does not call the eraser. -/
theorem ErasingSince.step {α : Type} {p : Action α} {Q : Except PyError α → World ι → Prop}
    (hlog : ErasingSince start w.log pairs) (h : FinishesAlone i p w Q)
    (hp : p.Calls (fun op => op.isEraseCheckpoint = false)) :
    FinishesErasing i pattern p w (fun r w' => Q r w' ∧ ErasingSince start w'.log pairs) := by
  obtain ⟨past, hpast, herasing⟩ := hlog
  refine (logged (failingOn_of_alone h hp) hp).post ?_
  rintro r w' ⟨hQ, events, hevents, hothers⟩
  have happended := herasing.append (Erasing.others (i := i) hothers)
  rw [List.append_nil] at happended
  refine ⟨hQ, past ++ events.map (fun event => (i, event)), ?_, happended⟩
  rw [hevents, hpast, List.append_assoc]

/-- The loop over the conversations: it ends at the first call that raises. -/
theorem eraseEach_finishes (rest : List (Uuid × Uuid)) (h : Alone i t v x w)
    (hlog : ErasingSince start w.log pairs) :
    FinishesErasing i pattern
      (Prog.forEach rest fun (ownerUserId, conversationId) =>
        send (.eraseCheckpoint ownerUserId conversationId)) w (fun r w' =>
      (∃ x, Alone i t v x w') ∧ ((r = .ok () ∧ ErasingSince start w'.log (pairs ++ rest)) ∨
        ((∃ e, r = .error e) ∧ ∃ events, w'.log = start ++ events ∧ EraserRaised events))) := by
  induction rest generalizing pairs x w with
  | nil =>
    refine Finishes.pure ⟨⟨x, h⟩, Or.inl ⟨rfl, ?_⟩⟩
    rw [List.append_nil]
    exact hlog
  | cons pair rest ih =>
    obtain ⟨ownerUserId, conversationId⟩ := pair
    obtain ⟨past, hpast, herasing⟩ := hlog
    have hcarry : carryOut i (.eraseCheckpoint ownerUserId conversationId) w =
        some (.ok (), { w with index := w.index }) := rfl
    have hcall :
        FinishesErasing i pattern (send (.eraseCheckpoint ownerUserId conversationId)) w _ :=
      h.failingOnCall _ rfl rfl hcarry
    refine hcall.bind ?_ ?_
    · rintro reply w₁ ⟨-, hentry, x₁, h₁⟩
      have hlog₁ : ErasingSince start w₁.log (pairs ++ [(ownerUserId, conversationId)]) := by
        refine ⟨past ++ [(i, ⟨.eraseCheckpoint ownerUserId conversationId, .ok ()⟩)], ?_,
          herasing.append (Erasing.single ownerUserId conversationId)⟩
        rw [hentry, hpast, List.append_assoc]
      have hrest := ih h₁ hlog₁
      rw [List.append_assoc] at hrest
      exact hrest
    · rintro e w₁ ⟨-, hentry, halone⟩
      refine ⟨halone, Or.inr ⟨⟨e, rfl⟩,
        past ++ [(i, ⟨.eraseCheckpoint ownerUserId conversationId, .error e⟩)], ?_, ?_⟩⟩
      · rw [hentry, hpast, List.append_assoc]
      · exact ⟨_, List.mem_append_right _ List.mem_cons_self, rfl, rfl⟩

end

/-! ## The run -/

/-- The tables without the expired turns, as the second selection sees them. -/
def withoutExpired (now : DateTime) (t : Tables) : Tables :=
  { t with turns := t.turns.filter (fun turn => !turn.expired now) }

/-- The conversations that a purge deletes. -/
def staleRows (job : ShortTermRetentionJob) (now : DateTime) (t : Tables) :
    List AssistantConversationRecord :=
  staleConversations (now - DateTime.days job.assistantConversationRetentionDays)
    (withoutExpired now t)

/-- What a purge leaves of the tables. -/
def purgedTables (job : ShortTermRetentionJob) (now : DateTime) (t : Tables) : Tables :=
  (withoutExpired now t).withoutConversations ((staleRows job now t).map (·.id))

/-- The conversations whose checkpoints a purge erases. -/
def erasures (job : ShortTermRetentionJob) (now : DateTime) (t : Tables) : List (Uuid × Uuid) :=
  if job.hasCheckpointEraser then
    sortedConversations
      ((expiredTurns now t).map (fun row => (row.ownerUserId, row.conversationId)) ++
      (staleRows job now t).map (fun row => (row.ownerUserId, row.id)))
  else []

section

variable {pattern : FailurePattern} {start : List (ι × Event)} (job : ShortTermRetentionJob)
  (now : DateTime)

theorem eraseCheckpoints_finishes (h : Alone i t v x w) (hlog : ErasingSince start w.log []) :
    FinishesErasing i pattern (job.eraseCheckpoints
      ((expiredTurns now t).map (fun row => (row.ownerUserId, row.conversationId)) ++
        (staleRows job now t).map (fun row => (row.ownerUserId, row.id)))) w (fun r w' =>
      (∃ x, Alone i t v x w') ∧ ((r = .ok () ∧ ErasingSince start w'.log (erasures job now t)) ∨
        (job.hasCheckpointEraser = true ∧ (∃ e, r = .error e) ∧
          ∃ events, w'.log = start ++ events ∧ EraserRaised events))) := by
  unfold ShortTermRetentionJob.eraseCheckpoints erasures
  by_cases heraser : job.hasCheckpointEraser = true
  · rw [if_pos heraser, if_pos heraser]
    refine (eraseEach_finishes _ h hlog).post ?_
    rintro r w' ⟨halone, hdone | hraised⟩
    · exact ⟨halone, Or.inl hdone⟩
    · exact ⟨halone, Or.inr ⟨heraser, hraised⟩⟩
  · rw [if_neg heraser, if_neg heraser]
    exact Finishes.pure ⟨⟨x, h⟩, Or.inl ⟨rfl, hlog⟩⟩

/-- `purge_expired` returns with the tables purged and the erasures before its commit, or raises
with the tables as they were. -/
theorem purgeExpired_finishes (h : Alone i t t x w) :
    FinishesErasing i pattern (job.purgeExpired now) w (fun r w' =>
      (r = .ok (expiredTurns now t).length ∧ w'.server.committed = purgedTables job now t ∧
        ∃ before, w'.log = w.log ++ (before ++ [(i, ⟨.commit, .ok ()⟩), (i, ⟨.rollback, .ok ()⟩)]) ∧
          Erasing before (erasures job now t)) ∨
      ((∃ e, r = .error e) ∧ w'.server.committed = t ∧ job.hasCheckpointEraser = true ∧
        ∃ events, w'.log = w.log ++ events ∧ EraserRaised events)) := by
  have hlog : ErasingSince w.log w.log [] := by
    refine ⟨[], (List.append_nil _).symm, rfl, ?_⟩
    rintro ⟨entry, hentry, -⟩
    exact absurd hentry List.not_mem_nil
  unfold ShortTermRetentionJob.purgeExpired
  refine (inSession_logged rfl (fun r t' log =>
      (r = .ok (expiredTurns now t).length ∧ t' = purgedTables job now t ∧
        ∃ before, log = w.log ++ (before ++ [(i, ⟨.commit, .ok ()⟩)]) ∧
          Erasing before (erasures job now t)) ∨
      ((∃ e, r = .error e) ∧ t' = t ∧ job.hasCheckpointEraser = true ∧
        ∃ events, log = w.log ++ events ∧ EraserRaised events)) ?_).post ?_
  · -- the expired turns are read and deleted
    refine (hlog.step (h.sql rfl) (calls_sql rfl)).bind ?_ (fun e w' hQ => by cases hQ.1.1)
    rintro rows w₁ ⟨⟨hrows, h₁⟩, hlog₁⟩
    cases hrows
    obtain ⟨n, changes, houtcome, hafter, hempty⟩ :=
      deleteTurns_filter_alone (fun turn => turn.expired now) t
    rw [after_nil] at h₁
    have hdelete : FinishesAlone i (unlessEmpty ((expiredTurns now t).map (·.id))
        (fun ids => sql (.deleteTurns ids))) w₁ _ :=
      h₁.unlessEmpty (h₁.sql houtcome) (fun hids => by rw [hempty hids]; rfl)
    refine (hlog₁.step hdelete (calls_unlessEmpty fun _ => calls_sql rfl)).bind ?_
      (fun e w' hQ => by cases hQ.1.1)
    rintro _ w₂ ⟨⟨-, h₂⟩, hlog₂⟩
    have hexpired : t.after changes = withoutExpired now t := hafter
    rw [hexpired] at h₂
    -- the stale conversations are read
    refine (hlog₂.step (h₂.sql rfl) (calls_sql rfl)).bind ?_ (fun e w' hQ => by cases hQ.1.1)
    rintro stale w₃ ⟨⟨hstale, h₃⟩, hlog₃⟩
    cases hstale
    refine (eraseCheckpoints_finishes job now h₃ hlog₃).bind ?_ ?_
    · rintro _ w₄ ⟨⟨x₄, h₄⟩, ⟨-, hlog₄⟩ | ⟨-, ⟨e, heq⟩, -⟩⟩
      · obtain ⟨n', changes', houtcome', hafter', hempty'⟩ :=
          deleteConversations_alone ((staleRows job now t).map (·.id)) (withoutExpired now t)
        have hdelete' : FinishesAlone i (unlessEmpty ((staleRows job now t).map (·.id))
            (fun ids => sql (.deleteConversations ids))) w₄ _ :=
          h₄.unlessEmpty (h₄.sql houtcome') (fun hids => by rw [hempty' hids]; rfl)
        refine (hlog₄.step hdelete' (calls_unlessEmpty fun _ => calls_sql rfl)).bind ?_
          (fun e w' hQ => by cases hQ.1.1)
        rintro _ w₅ ⟨⟨-, h₅⟩, hlog₅⟩
        have hcommit : FinishesErasing i pattern (send .commit) w₅ _ := send_logged h₅.commit rfl
        refine hcommit.bind ?_ (fun e w' hQ => by cases hQ.1.1)
        rintro _ w₆ ⟨⟨-, h₆⟩, hentry⟩
        rw [after_nil, hafter'] at h₆
        obtain ⟨before, hbefore, herased⟩ := hlog₅
        refine Finishes.pure ⟨_, _, x₄, Or.inl ⟨?_, rfl, before, ?_, herased⟩, h₆⟩
        · rw [List.length_map]
        · rw [hentry, hbefore, List.append_assoc]
      · cases heq
    · rintro e w₄ ⟨⟨x₄, h₄⟩, ⟨heq, -⟩ | ⟨heraser, -, hraised⟩⟩
      · cases heq
      · exact ⟨_, _, x₄, Or.inr ⟨⟨e, rfl⟩, rfl, heraser, hraised⟩, h₄⟩
  · rintro r w' ⟨t', x', log, hdone | hraised, hrolled, h'⟩
    · obtain ⟨hreply, rfl, before, rfl, herased⟩ := hdone
      refine Or.inl ⟨hreply, h'.committed, before, ?_, herased⟩
      rw [hrolled]
      simp only [List.append_assoc, List.singleton_append]
    · obtain ⟨herror, rfl, heraser, events, rfl, entry, hentry, hevent⟩ := hraised
      refine Or.inr ⟨herror, h'.committed, heraser, events ++ [(i, ⟨.rollback, .ok ()⟩)], ?_,
        entry, ?_, hevent⟩
      · rw [hrolled, List.append_assoc]
      · exact List.mem_append_left _ hentry

/-! ## What it has deleted -/

theorem mem_staleRows {conversation : AssistantConversationRecord} :
    conversation ∈ staleRows job now t ↔
      conversation ∈ t.conversations ∧ Stale job now t conversation := by
  have hexpired : ∀ turn, turn ∈ (withoutExpired now t).turns.rows ↔
      turn ∈ t.turns ∧ turn.expired now = false := by
    intro turn
    rw [← Bool.not_eq_true']
    exact Table.mem_filter
  unfold staleRows staleConversations Stale
  rw [List.mem_filter, decide_eq_true_iff, Bool.not_eq_true', List.any_eq_false]
  apply and_congr Iff.rfl
  apply and_congr Iff.rfl
  constructor
  · intro hnone turn hturn hconversation
    by_contra hlive
    apply hnone turn ((hexpired turn).mpr ⟨hturn, by simpa using hlive⟩)
    exact decide_eq_true hconversation
  · intro hall turn hturn hconversation
    obtain ⟨hmem, hlive⟩ := (hexpired turn).mp hturn
    rw [hall turn hmem (of_decide_eq_true hconversation)] at hlive
    cases hlive

/-- Whether a row has the id of a stale conversation. -/
theorem id_mem_staleRows {conversation : AssistantConversationRecord}
    (h : conversation ∈ t.conversations) :
    conversation.id ∈ (staleRows job now t).map (·.id) ↔ Stale job now t conversation := by
  rw [List.mem_map]
  constructor
  · rintro ⟨row, hrow, hid⟩
    obtain ⟨hmem, hstale⟩ := (mem_staleRows job now).mp hrow
    rw [← Table.eq_of_key_eq hmem h hid]
    exact hstale
  · intro hstale
    exact ⟨conversation, (mem_staleRows job now).mpr ⟨h, hstale⟩, rfl⟩

/-- Whether a foreign key names a stale conversation. -/
theorem mem_staleKeys {ownerKey : Uuid × Uuid} :
    ownerKey ∈ (t.conversations.rows.filter (fun row =>
      row.id ∈ (staleRows job now t).map (·.id))).map
        AssistantConversationRecord.ownerKey ↔
      ∃ conversation ∈ t.conversations, Stale job now t conversation ∧
        conversation.ownerKey = ownerKey := by
  rw [List.mem_map]
  constructor
  · rintro ⟨conversation, hconversation, hkey⟩
    obtain ⟨hmem, hid⟩ := List.mem_filter.mp hconversation
    exact ⟨conversation, hmem, (id_mem_staleRows job now hmem).mp (of_decide_eq_true hid), hkey⟩
  · rintro ⟨conversation, hmem, hstale, hkey⟩
    refine ⟨conversation, List.mem_filter.mpr ⟨hmem, ?_⟩, hkey⟩
    exact decide_eq_true ((id_mem_staleRows job now hmem).mpr hstale)

theorem purged_purgedTables (t : Tables) : Purged job now t (purgedTables job now t) where
  turns := by
    intro turn
    have hunlisted : turn ∈ t.turns → turn.expired now = false →
        turn.ownerKey ∉ (t.conversations.rows.filter
          (fun row => row.id ∈ (staleRows job now t).map (·.id))).map
            AssistantConversationRecord.ownerKey := by
      intro hmem hlive hlisted
      obtain ⟨conversation, -, hstale, hkey⟩ := (mem_staleKeys job now).mp hlisted
      rw [hstale.2 turn hmem (congrArg Prod.fst hkey).symm] at hlive
      cases hlive
    constructor
    · intro hturn
      obtain ⟨hleft, -⟩ := Table.mem_filter.mp hturn
      obtain ⟨hmem, hlive⟩ := Table.mem_filter.mp hleft
      exact ⟨hmem, by simpa using hlive⟩
    · rintro ⟨hmem, hlive⟩
      refine Table.mem_filter.mpr ⟨Table.mem_filter.mpr ⟨hmem, by simp [hlive]⟩, ?_⟩
      rw [Bool.not_eq_true', decide_eq_false_iff_not]
      exact hunlisted hmem hlive
  conversations := by
    intro conversation
    constructor
    · intro hconversation
      obtain ⟨hleft, hid⟩ := Table.mem_filter.mp hconversation
      have hmem : conversation ∈ t.conversations := hleft
      rw [Bool.not_eq_true', decide_eq_false_iff_not, id_mem_staleRows job now hmem] at hid
      exact ⟨hmem, hid⟩
    · rintro ⟨hmem, hactive⟩
      refine Table.mem_filter.mpr ⟨hmem, ?_⟩
      rw [Bool.not_eq_true', decide_eq_false_iff_not, id_mem_staleRows job now hmem]
      exact hactive
  evidence := by
    intro row
    constructor
    · intro hrow
      obtain ⟨hmem, hunlisted⟩ := Table.mem_filter.mp hrow
      rw [Bool.not_eq_true', decide_eq_false_iff_not] at hunlisted
      refine ⟨hmem, fun conversation hconversation hstale hkey => hunlisted ?_⟩
      exact (mem_staleKeys job now).mpr ⟨conversation, hconversation, hstale, hkey⟩
    · rintro ⟨hmem, hnone⟩
      refine Table.mem_filter.mpr ⟨hmem, ?_⟩
      rw [Bool.not_eq_true', decide_eq_false_iff_not]
      intro hlisted
      obtain ⟨conversation, hconversation, hstale, hkey⟩ := (mem_staleKeys job now).mp hlisted
      exact hnone conversation hconversation hstale hkey
  memories := rfl
  candidates := rfl

theorem nodup_erasures (t : Tables) : (erasures job now t).Nodup := by
  unfold erasures
  split
  · exact (List.mergeSort_perm _ _).nodup_iff.mpr (List.nodup_dedup _)
  · exact List.nodup_nil

theorem mem_erasures (heraser : job.hasCheckpointEraser = true) {pair : Uuid × Uuid} :
    pair ∈ erasures job now t ↔ Affected job now t pair := by
  unfold erasures sortedConversations Affected
  rw [if_pos heraser, List.mem_mergeSort, List.mem_dedup, List.mem_append, List.mem_map,
    List.mem_map]
  apply or_congr
  · constructor
    · rintro ⟨turn, hturn, hpair⟩
      obtain ⟨hmem, hexpired⟩ := List.mem_filter.mp hturn
      exact ⟨turn, hmem, hexpired, hpair⟩
    · rintro ⟨turn, hmem, hexpired, hpair⟩
      exact ⟨turn, List.mem_filter.mpr ⟨hmem, hexpired⟩, hpair⟩
  · constructor
    · rintro ⟨conversation, hrow, hpair⟩
      obtain ⟨hmem, hstale⟩ := (mem_staleRows job now).mp hrow
      exact ⟨conversation, hmem, hstale, hpair⟩
    · rintro ⟨conversation, hmem, hstale, hpair⟩
      exact ⟨conversation, (mem_staleRows job now).mpr ⟨hmem, hstale⟩, hpair⟩

/-- A purge that runs alone is exact and atomic, whichever calls to the eraser fail. -/
theorem purgeExpired_exact (i : ι) (pattern : FailurePattern) (t : Tables) (x : VectorIndex) :
    FinishesErasing i pattern (job.purgeExpired now) ⟨.idle t, x, []⟩ (PurgeExact i job now t) := by
  have hstart : Alone i t t x ⟨.idle t, x, []⟩ := Alone.start i []
  refine (purgeExpired_finishes job now hstart).post ?_
  rintro r w' (⟨rfl, hcommitted, before, hlog, herased⟩ |
    ⟨⟨e, rfl⟩, hcommitted, heraser, events, hlog, hevents⟩)
  · have hothers : ∀ event ∈ [(⟨.commit, .ok ()⟩ : Event), ⟨.rollback, .ok ()⟩],
        event.op.isEraseCheckpoint = false := by
      simp [Op.isEraseCheckpoint]
    have hend : Erasing [(i, ⟨.commit, .ok ()⟩), (i, ⟨.rollback, .ok ()⟩)] [] :=
      Erasing.others hothers
    have hwhole := herased.append hend
    rw [List.nil_append] at hlog
    rw [← hlog] at hwhole
    refine ⟨fun _ => ?_, fun n _ => ?_, fun n _ heraser => ?_, fun hnone => ?_, fun hraised => ?_⟩
    · rw [List.countP_eq_length_filter]
      rfl
    · rw [hcommitted]
      exact purged_purgedTables job now t
    · refine ⟨before, _, hlog, ?_, fun pair => ?_, rfl⟩
      · rw [herased.erased]
        exact nodup_erasures job now t
      · rw [herased.erased]
        exact mem_erasures job now heraser
    · rw [hwhole.erased]
      unfold erasures
      rw [if_neg (by simp [hnone])]
      rfl
    · exact absurd hraised hwhole.answered
  · rw [List.nil_append] at hlog
    rw [← hlog] at hevents
    refine ⟨fun hnone => absurd hevents hnone, fun n heq => ?_, fun n heq => ?_, fun hnone => ?_,
      fun _ => hcommitted⟩
    · cases heq
    · cases heq
    · rw [heraser] at hnone
      cases hnone

end

end HotAirBalloon.Memory
