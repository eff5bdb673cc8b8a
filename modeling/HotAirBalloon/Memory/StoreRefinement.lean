import HotAirBalloon.Memory.StoreRelation

/-!
# The in-memory store and the PostgreSQL store agree

`Refines` says that a program of one session does what an operation of the in-memory store does; it
composes along `bind`. Each call of the PostgreSQL store keeps the relation and gives the result of
the in-memory call, so two runs of the same calls give the same results.
-/

namespace HotAirBalloon.Memory

open Python Library Evidence

variable {store : ConversationStore} {memory : InMemoryConversationStore} {t v : Tables}
  {pending : Pending} {conversationId ownerUserId : Uuid}

/-! ## Programs that do what the in-memory store does -/

variable {ι : Type} [DecidableEq ι] {i : ι} {α β γ δ : Type}

/-- A program of a session over the committed rows `t` that sees `v` does what an operation of the
in-memory store does: it raises the same error, or its result, the operation's and the rows that the
session then sees satisfy `post`. -/
def Refines (i : ι) (t v : Tables) (p : Action α) (operation : Except PyError β)
    (post : α → β → Tables → Prop) : Prop :=
  match operation with
  | .ok b => ∃ a v', RunsAlone i t v p (.ok a) t v' ∧ post a b v'
  | .error e => ∃ v', RunsAlone i t v p (.error e) t v'

namespace Refines

variable {p : Action α} {operation : Except PyError β} {post : α → β → Tables → Prop}

theorem mono {post' : α → β → Tables → Prop} (h : Refines i t v p operation post)
    (hpost : ∀ a b v', post a b v' → post' a b v') : Refines i t v p operation post' := by
  cases operation with
  | error e => exact h
  | ok b =>
    obtain ⟨a, v', hrun, ha⟩ := h
    exact ⟨a, v', hrun, hpost a b v' ha⟩

theorem bind {f : α → Action γ} {g : β → Except PyError δ} {post' : γ → δ → Tables → Prop}
    (h : Refines i t v p operation post)
    (hnext : ∀ a b v', post a b v' → Refines i t v' (f a) (g b) post') :
    Refines i t v (p >>= f) (operation >>= g) post' := by
  cases operation with
  | error e =>
    obtain ⟨v', hrun⟩ := h
    exact ⟨v', hrun.bind_error⟩
  | ok b =>
    obtain ⟨a, v', hrun, hpost⟩ := h
    have hrest : Refines i t v' (f a) (g b) post' := hnext a b v' hpost
    change Refines i t v (p >>= f) (g b) post'
    unfold Refines at hrest ⊢
    cases hg : g b with
    | error e =>
      rw [hg] at hrest
      obtain ⟨v'', hrun'⟩ := hrest
      exact ⟨v'', hrun.bind hrun'⟩
    | ok d =>
      rw [hg] at hrest
      obtain ⟨c, v'', hrun', hpost'⟩ := hrest
      exact ⟨c, v'', hrun.bind hrun', hpost'⟩

end Refines

/-- The same of a whole call, over the committed rows. -/
def CallRefines (i : ι) (t : Tables) (p : Action α) (operation : Except PyError β)
    (post : α → β → Tables → Prop) : Prop :=
  match operation with
  | .ok b => ∃ a t', RunsAlone i t t p (.ok a) t' t' ∧ post a b t'
  | .error e => RunsAlone i t t p (.error e) t t

namespace CallRefines

variable {p : Action α} {operation : Except PyError β} {post : α → β → Tables → Prop}

theorem transaction (h : Refines i t t p operation post) :
    CallRefines i t (Memory.transaction p) operation post := by
  cases operation with
  | error e =>
    obtain ⟨v', hrun⟩ := h
    exact hrun.transaction_error
  | ok b =>
    obtain ⟨a, v', hrun, hpost⟩ := h
    exact ⟨a, v', hrun.transaction_ok, hpost⟩

/-- A session that only reads. -/
theorem inSession (h : Refines i t t p operation (fun a b v' => v' = t ∧ post a b t)) :
    CallRefines i t (Memory.inSession p) operation post := by
  cases operation with
  | error e =>
    obtain ⟨v', hrun⟩ := h
    exact hrun.inSession
  | ok b =>
    obtain ⟨a, v', hrun, -, hpost⟩ := h
    exact ⟨a, t, hrun.inSession, hpost⟩

/-- A result that the program converts without further calls. -/
theorem convert {post' : γ → β → Tables → Prop} (f : α → Except PyError γ)
    (h : CallRefines i t p operation post)
    (hconvert : ∀ a b t', post a b t' → ∃ c, f a = .ok c ∧ post' c b t') :
    CallRefines i t (p >>= fun a => Prog.ofExcept (f a)) operation post' := by
  cases operation with
  | error e => exact RunsAlone.bind_error h
  | ok b =>
    obtain ⟨a, t', hrun, hpost⟩ := h
    obtain ⟨c, hc, hpost'⟩ := hconvert a b t' hpost
    refine ⟨c, t', hrun.bind ?_, hpost'⟩
    rw [hc]
    exact RunsAlone.ofExcept (.ok c)

/-- Results that both sides wrap. -/
theorem answer {f : α → γ} {g : β → δ} {post' : γ → δ → Tables → Prop}
    (h : CallRefines i t p operation post)
    (hpost : ∀ a b t', post a b t' → post' (f a) (g b) t') :
    CallRefines i t (p >>= fun a => pure (f a)) (operation >>= fun b => pure (g b)) post' := by
  cases operation with
  | error e => exact RunsAlone.bind_error h
  | ok b =>
    obtain ⟨a, t', hrun, ha⟩ := h
    exact ⟨f a, t', hrun.bind (RunsAlone.pure (f a)), hpost a b t' ha⟩

end CallRefines

/-! ## The operations -/

theorem claimOrValidateIn_refines (h : Simulates store memory v pending)
    (conversationId ownerUserId : Uuid) (observedAtUtc : DateTime) :
    Refines i t v (ConversationStore.claimOrValidateIn conversationId ownerUserId observedAtUtc)
      (memory.claimOrValidateIn conversationId ownerUserId) (fun _ claimed v' =>
        claimed.owners conversationId = some ownerUserId ∧ Simulates store claimed v' pending) := by
  have howners := h.owners conversationId
  unfold InMemoryConversationStore.claimOrValidateIn
  cases hfind : v.conversations.find? conversationId with
  | none =>
    rw [hfind] at howners
    rw [howners]
    have houtcome : ((Sql.claimConversation conversationId ownerUserId observedAtUtc).alone
        v).outcome = .ok (some conversationId, [.conversation (.put
          ⟨conversationId, ownerUserId, observedAtUtc, observedAtUtc, 0, none, none⟩)]) := by
      change (claimConversation conversationId ownerUserId observedAtUtc v).outcome = _
      unfold claimConversation
      rw [hfind]
      rfl
    refine ⟨(), _, (RunsAlone.sql houtcome).bind (RunsAlone.pure ()), ?_, ?_⟩
    · exact Function.update_self ..
    · exact h.putConversation ⟨conversationId, ownerUserId, observedAtUtc, observedAtUtc,
        0, none, none⟩ (.inl howners)
  | some row =>
    rw [hfind] at howners
    rw [howners]
    obtain ⟨-, rfl⟩ := Table.find?_eq_some_iff.mp hfind
    by_cases howner : row.ownerUserId = ownerUserId
    · subst howner
      have houtcome : ((Sql.claimConversation row.id row.ownerUserId observedAtUtc).alone
          v).outcome = .ok (some row.id, [.conversation (.put row)]) := by
        change (claimConversation row.id row.ownerUserId observedAtUtc v).outcome = _
        unfold claimConversation
        rw [hfind]
        dsimp only
        rw [if_pos rfl]
        rfl
      dsimp only [Option.map_some]
      rw [if_neg (not_not_intro rfl)]
      refine ⟨(), _, (RunsAlone.sql houtcome).bind (RunsAlone.pure ()), howners, ?_⟩
      exact h.replaceConversation howners
    · have houtcome : ((Sql.claimConversation row.id ownerUserId observedAtUtc).alone
          v).outcome = .ok (none, []) := by
        change (claimConversation row.id ownerUserId observedAtUtc v).outcome = _
        unfold claimConversation
        rw [hfind]
        dsimp only
        rw [if_neg howner]
        rfl
      dsimp only [Option.map_some]
      rw [if_pos howner]
      exact ⟨_, (RunsAlone.sql houtcome).bind (RunsAlone.raise conversationOwnershipError)⟩

theorem requireOwner_refines (h : Simulates store memory v pending)
    (conversationId ownerUserId : Uuid) :
    Refines i t v (ConversationStore.requireOwner conversationId ownerUserId)
      (memory.requireOwner conversationId ownerUserId)
      (fun _ _ v' => v' = v ∧ memory.owners conversationId = some ownerUserId) := by
  unfold InMemoryConversationStore.requireOwner
  by_cases howner : memory.owners conversationId = some ownerUserId
  · rw [if_neg (not_not_intro howner)]
    obtain ⟨row, howned, hid, -⟩ := h.ownedConversation_eq howner
    have houtcome : ((Sql.selectOwnedConversation conversationId ownerUserId).alone v).outcome =
        .ok (some conversationId, []) := by
      change (readEffect ((ownedConversation conversationId ownerUserId v).map (·.id))).outcome = _
      rw [howned, Option.map_some, hid]
      rfl
    exact ⟨(), v, (RunsAlone.sql houtcome).bind (RunsAlone.pure ()), rfl, howner⟩
  · rw [if_pos howner]
    have houtcome : ((Sql.selectOwnedConversation conversationId ownerUserId).alone v).outcome =
        .ok (none, []) := by
      change (readEffect ((ownedConversation conversationId ownerUserId v).map (·.id))).outcome = _
      rw [h.ownedConversation_eq_none howner]
      rfl
    exact ⟨v, (RunsAlone.sql houtcome).bind (RunsAlone.raise conversationOwnershipError)⟩

/-- An update of the row of an owned conversation. -/
theorem Simulates.updateOwned (h : Simulates store memory v pending)
    (howner : memory.owners conversationId = some ownerUserId)
    (set : AssistantConversationRecord → AssistantConversationRecord)
    (hid : ∀ row, (set row).id = row.id) (hset : ∀ row, (set row).ownerUserId = row.ownerUserId) :
    ∃ changes, (updateConversation conversationId ownerUserId set v).outcome =
        .ok (some conversationId, changes) ∧ (v.after changes).turns = v.turns ∧
      Simulates store memory (v.after changes) pending := by
  obtain ⟨row, howned, rfl, rfl⟩ := h.ownedConversation_eq howner
  refine ⟨[.conversation (.put (set row))], ?_, rfl, ?_⟩
  · unfold updateConversation
    rw [howned]
    rfl
  · apply h.replaceConversation
    rw [hid, hset, howner]

theorem advanceConversation_runs (i : ι) (t : Tables) (h : Simulates store memory v pending)
    (howner : memory.owners conversationId = some ownerUserId) (touchedAt : DateTime)
    (increment : Int) :
    ∃ v', RunsAlone i t v
        (ConversationStore.advanceConversation conversationId ownerUserId touchedAt increment)
        (.ok ()) t v' ∧ Simulates store memory v' pending := by
  obtain ⟨changes, houtcome, -, hsimulates⟩ := h.updateOwned howner
    (advanced touchedAt increment) (fun _ => rfl) (fun _ => rfl)
  have hrun : RunsAlone i t v
      (sql (.advanceConversation conversationId ownerUserId touchedAt increment))
      (.ok (some conversationId)) t (v.after changes) := RunsAlone.sql houtcome
  exact ⟨_, hrun.bind (RunsAlone.pure ()), hsimulates⟩

theorem claimOrValidate_refines (h : Simulates store memory t pending)
    (observedAtUtc : DateTime) :
    CallRefines i t (ConversationStore.claimOrValidate conversationId ownerUserId observedAtUtc)
      (memory.claimOrValidate conversationId ownerUserId)
      (fun _ after t' => Simulates store after t' pending) := by
  apply CallRefines.transaction
  refine (claimOrValidateIn_refines h conversationId ownerUserId observedAtUtc).mono ?_
  exact fun _ claimed v' hclaimed => hclaimed.2

/-- The evidence that is sent with an exchange. -/
theorem insertEvidence?_runs (i : ι) (t : Tables) (h : Simulates store memory v pending)
    {evidence : Option ConversationEvidenceSnapshot} {evidenceId : Uuid}
    {snapshots : List (Uuid × ConversationEvidenceSnapshot)}
    (hpending : pending.snapshots = evidence.toList.map (fun s => (evidenceId, s)) ++ snapshots)
    (hmatches : ∀ snapshot ∈ evidence, snapshot.conversationId = conversationId ∧
      snapshot.ownerUserId = ownerUserId)
    (howner : memory.owners conversationId = some ownerUserId) :
    ∃ row v', store.evidenceRecord? evidenceId evidence = .ok row ∧
      RunsAlone i t v (ConversationStore.insertEvidence? row) (.ok ()) t v' ∧
      Simulates store (match evidence with
        | none => memory
        | some snapshot => memory.addEvidence conversationId snapshot) v'
        { pending with snapshots := snapshots } := by
  cases evidence with
  | none =>
    refine ⟨none, v, rfl, RunsAlone.pure (), ?_⟩
    have hsame : pending = { pending with snapshots := snapshots } := by
      have hsnapshots : pending.snapshots = snapshots := hpending
      rw [← hsnapshots]
    rwa [← hsame]
  | some snapshot =>
    obtain ⟨rfl, rfl⟩ := hmatches snapshot rfl
    obtain ⟨row, hrecord, hinsert, hinserted⟩ := h.insertEvidence hpending howner
    refine ⟨some row, _, ?_, (RunsAlone.sql hinsert).bind (RunsAlone.pure ()), hinserted⟩
    unfold ConversationStore.evidenceRecord?
    dsimp only
    rw [hrecord]
    rfl

theorem appendCompletedExchange_refines (h : Simulates store memory t pending)
    {turns : List (Uuid × DateTime)} {snapshots : List (Uuid × ConversationEvidenceSnapshot)}
    {userTurn assistantTurn : ConversationTurn} {evidence : Option ConversationEvidenceSnapshot}
    {userTurnId assistantTurnId evidenceId : Uuid}
    (hturns : pending.turns = (userTurnId, userTurn.createdAtUtc) ::
      (assistantTurnId, assistantTurn.createdAtUtc) :: turns)
    (hsnapshots : pending.snapshots = evidence.toList.map (fun s => (evidenceId, s)) ++ snapshots)
    (hmatches : ∀ snapshot ∈ evidence, snapshot.conversationId = conversationId ∧
      snapshot.ownerUserId = ownerUserId) :
    CallRefines i t
      (store.appendCompletedExchange conversationId ownerUserId userTurn assistantTurn evidence
        userTurnId assistantTurnId evidenceId)
      (memory.appendCompletedExchange conversationId ownerUserId userTurn assistantTurn evidence)
      (fun _ after t' => Simulates store after t' ⟨turns, snapshots, pending.reads⟩) := by
  unfold ConversationStore.appendCompletedExchange
    InMemoryConversationStore.appendCompletedExchange
  by_cases hroles : userTurn.role ≠ "user" ∨ assistantTurn.role ≠ "assistant"
  · rw [if_pos hroles, if_pos hroles]
    exact RunsAlone.raise _
  rw [if_neg hroles, if_neg hroles]
  apply CallRefines.transaction
  refine (claimOrValidateIn_refines h conversationId ownerUserId userTurn.createdAtUtc).bind ?_
  rintro ⟨⟩ claimed v₁ ⟨howner, hclaimed⟩
  obtain ⟨v₂, hadvance, hadvanced⟩ :=
    advanceConversation_runs i t hclaimed howner assistantTurn.createdAtUtc 2
  obtain ⟨hinsertUser, huser⟩ := @Simulates.insertTurn store claimed v₂ pending hadvanced
    (store.turnRecord userTurnId conversationId ownerUserId userTurn) _ hturns howner
  have howner₁ : ((claimed.extendTurns conversationId [userTurn]).trim conversationId).owners
      conversationId = some ownerUserId := by
    rw [InMemoryConversationStore.trim_extendTurns]
    exact howner
  obtain ⟨hinsertAssistant, hassistant⟩ := @Simulates.insertTurn store _ _ _ huser
    (store.turnRecord assistantTurnId conversationId ownerUserId assistantTurn) turns rfl howner₁
  have htrim := claimed.trim_extendTurns_trim conversationId [userTurn] [assistantTurn]
  rw [List.singleton_append] at htrim
  have hboth := hassistant
  change Simulates store ((((claimed.extendTurns conversationId [userTurn]).trim
    conversationId).extendTurns conversationId [assistantTurn]).trim conversationId) _ _ at hboth
  rw [htrim] at hboth
  have howner₂ : ((claimed.extendTurns conversationId [userTurn, assistantTurn]).trim
      conversationId).owners conversationId = some ownerUserId := by
    rw [InMemoryConversationStore.trim_extendTurns]
    exact howner
  obtain ⟨row, v₃, hrecord, hevidence, hsimulates⟩ :=
    insertEvidence?_runs i t hboth hsnapshots hmatches howner₂
  cases evidence
  all_goals
    refine ⟨(), v₃, ?_, hsimulates⟩
    rw [hrecord]
    exact hadvance.bind ((RunsAlone.sql hinsertUser).bind
      ((RunsAlone.sql hinsertAssistant).bind hevidence))

theorem readRecent_refines (h : Simulates store memory t pending) {limit : Int}
    (hlimit : limit ≤ memory.maxTurnsPerConversation) :
    CallRefines i t (ConversationStore.readRecent conversationId ownerUserId limit)
      (memory.readRecent conversationId ownerUserId limit) (fun turns turns' t' =>
        turns = turns' ∧ t' = t) := by
  have hrecords : CallRefines i t
      (inSession do
        ConversationStore.requireOwner conversationId ownerUserId
        if limit ≤ 0 then return []
        else sql (.selectRecentTurns conversationId ownerUserId limit.toNat))
      (memory.readRecent conversationId ownerUserId limit)
      (fun records turns t' => records.reverse.map ConversationStore.turnOf = turns ∧ t' = t) := by
    apply CallRefines.inSession
    refine (requireOwner_refines h conversationId ownerUserId).bind ?_
    rintro ⟨⟩ ⟨⟩ v' ⟨rfl, howner⟩
    by_cases hnone : limit ≤ 0
    · rw [if_pos hnone, if_pos hnone]
      exact ⟨[], v', RunsAlone.pure [], rfl, rfl, rfl⟩
    · rw [if_neg hnone, if_neg hnone]
      have houtcome : ((Sql.selectRecentTurns conversationId ownerUserId limit.toNat).alone
          v').outcome = .ok (recentTurns conversationId ownerUserId limit.toNat v', []) := rfl
      exact ⟨_, v', RunsAlone.sql houtcome, rfl, h.recentTurns_eq howner (by omega), rfl⟩
  refine hrecords.convert (fun records => .ok (records.reverse.map ConversationStore.turnOf)) ?_
  exact fun records turns t' hpost => ⟨_, rfl, hpost⟩

theorem readRecentEvidence_refines (h : Simulates store memory t pending) {limit : Int}
    {now : DateTime} (hnow : now ∈ pending.reads) :
    CallRefines i t (store.readRecentEvidence conversationId ownerUserId limit now)
      (memory.readRecentEvidence conversationId ownerUserId limit) (fun snapshots snapshots' t' =>
        snapshots = snapshots' ∧ t' = t) := by
  have hrecords : CallRefines i t
      (inSession do
        ConversationStore.requireOwner conversationId ownerUserId
        if limit ≤ 0 then return []
        else sql (.selectRecentEvidence conversationId ownerUserId now limit.toNat))
      (memory.readRecentEvidence conversationId ownerUserId limit)
      (fun records snapshots t' =>
        records.reverse.mapM store.snapshotOf = .ok snapshots ∧ t' = t) := by
    apply CallRefines.inSession
    refine (requireOwner_refines h conversationId ownerUserId).bind ?_
    rintro ⟨⟩ ⟨⟩ v' ⟨rfl, howner⟩
    by_cases hnone : limit ≤ 0
    · rw [if_pos hnone, if_pos hnone]
      exact ⟨[], v', RunsAlone.pure [], rfl, rfl, rfl⟩
    · rw [if_neg hnone, if_neg hnone]
      have houtcome : ((Sql.selectRecentEvidence conversationId ownerUserId now
          limit.toNat).alone v').outcome =
          .ok (recentEvidence conversationId ownerUserId now limit.toNat v', []) := rfl
      exact ⟨_, v', RunsAlone.sql houtcome, rfl, h.recentEvidence_eq howner hnow limit.toNat, rfl⟩
  refine hrecords.convert (fun records => records.reverse.mapM store.snapshotOf) ?_
  rintro records snapshots t' ⟨hdecoded, rfl⟩
  exact ⟨snapshots, hdecoded, rfl, rfl⟩

/-- The turns that a call would write: their ids and times. -/
def StoreCall.turns (draws : Draws) : StoreCall → List (Uuid × DateTime)
  | append _ turn _ => [(draws.turnId, turn.createdAtUtc)]
  | appendCompletedExchange _ _ userTurn assistantTurn _ =>
    [(draws.turnId, userTurn.createdAtUtc), (draws.assistantTurnId, assistantTurn.createdAtUtc)]
  | _ => []

/-- The evidence that a call would write, under the ids it draws. -/
def StoreCall.snapshots (draws : Draws) :
    StoreCall → List (Uuid × ConversationEvidenceSnapshot)
  | appendCompletedExchange _ _ _ _ evidence =>
    evidence.toList.map (fun snapshot => (draws.evidenceId, snapshot))
  | appendEvidence snapshot => [(draws.evidenceId, snapshot)]
  | _ => []

/-- When a call reads evidence. -/
def StoreCall.evidenceReads (draws : Draws) : StoreCall → List DateTime
  | readRecentEvidence _ _ _ => [draws.now]
  | _ => []

/-- The evidence of an exchange has the exchange's conversation and owner. -/
def StoreCall.Matches : StoreCall → Prop
  | appendCompletedExchange conversationId ownerUserId _ _ evidence =>
    ∀ snapshot ∈ evidence, snapshot.conversationId = conversationId ∧
      snapshot.ownerUserId = ownerUserId
  | _ => True

/-- The limit of a read of turns is within the maximum. -/
def StoreCall.LimitWithin (maxTurns : Int) : StoreCall → Prop
  | readRecent _ _ limit => limit ≤ maxTurns
  | _ => True

def pendingOf (calls : List (StoreCall × Draws)) : Pending where
  turns := calls.flatMap (fun call => call.1.turns call.2)
  snapshots := calls.flatMap (fun call => call.1.snapshots call.2)
  reads := calls.flatMap (fun call => call.1.evidenceReads call.2)

/-- Calls as their callers make them: the times of turns and of evidence increase, `uuid4()` does
not repeat, exchange ids are distinct, evidence belongs to its conversation, round-trips and has not
expired when it is read, and no read of turns asks for more than the in-memory store keeps. -/
structure AdmissibleCalls (store : ConversationStore) (maxTurns : Int)
    (calls : List (StoreCall × Draws)) : Prop where
  turnTimes : ((pendingOf calls).turns.map Prod.snd).Pairwise (· < ·)
  turnIds : ((pendingOf calls).turns.map Prod.fst).Nodup
  evidenceTimes : ((pendingOf calls).snapshots.map (·.2.createdAtUtc)).Pairwise (· < ·)
  evidenceIds : ((pendingOf calls).snapshots.map Prod.fst).Nodup
  exchangeIds : ((pendingOf calls).snapshots.map (·.2.exchangeId)).Nodup
  matching : ∀ call ∈ calls, call.1.Matches
  roundTrips : ∀ snapshot ∈ (pendingOf calls).snapshots, RoundTrips store snapshot.2
  unexpired : ∀ snapshot ∈ (pendingOf calls).snapshots, ∀ now ∈ (pendingOf calls).reads,
    snapshot.2.expiresAtUtc.all (now < ·)
  limits : ∀ call ∈ calls, call.1.LimitWithin maxTurns

/-- The tool names of the evidence fit the column of the database. -/
def ToolNamesFit (calls : List (StoreCall × Draws)) : Prop :=
  ∀ snapshot ∈ (pendingOf calls).snapshots, snapshot.2.toolName.length ≤ 128

theorem pendingOf_within (call : StoreCall × Draws) (rest : List (StoreCall × Draws)) :
    (pendingOf rest).Within (pendingOf (call :: rest)) where
  turns := List.sublist_append_right _ _
  snapshots := List.sublist_append_right _ _
  reads := List.sublist_append_right _ _

theorem maxTurns_claimOrValidateIn {claimed : InMemoryConversationStore}
    (h : memory.claimOrValidateIn conversationId ownerUserId = .ok claimed) :
    claimed.maxTurnsPerConversation = memory.maxTurnsPerConversation := by
  unfold InMemoryConversationStore.claimOrValidateIn at h
  split at h
  · cases h
    rfl
  · split at h
    · cases h
    · cases h
      rfl

theorem maxTurns_answer {call : StoreCall} {result : CallResult} {after : InMemoryConversationStore}
    (h : memory.answer call = .ok (result, after)) :
    after.maxTurnsPerConversation = memory.maxTurnsPerConversation := by
  cases call with
  | claimOrValidate conversationId ownerUserId _ =>
    obtain ⟨claimed, hclaimed, hafter⟩ := except_bind_eq_ok.mp h
    cases hafter
    exact maxTurns_claimOrValidateIn hclaimed
  | readRecent conversationId ownerUserId limit =>
    obtain ⟨_, -, hafter⟩ := except_bind_eq_ok.mp h
    cases hafter
    rfl
  | append conversationId turn ownerUserId =>
    obtain ⟨appended, happended, hafter⟩ := except_bind_eq_ok.mp h
    obtain ⟨claimed, hclaimed, htrimmed⟩ := except_bind_eq_ok.mp happended
    cases hafter
    cases htrimmed
    have hmax : claimed.maxTurnsPerConversation = memory.maxTurnsPerConversation :=
      maxTurns_claimOrValidateIn hclaimed
    rw [InMemoryConversationStore.trim_extendTurns]
    exact hmax
  | appendCompletedExchange conversationId ownerUserId userTurn assistantTurn evidence =>
    obtain ⟨appended, happended, hafter⟩ := except_bind_eq_ok.mp h
    cases hafter
    unfold InMemoryConversationStore.appendCompletedExchange at happended
    split at happended
    · cases happended
    obtain ⟨claimed, hclaimed, htrimmed⟩ := except_bind_eq_ok.mp happended
    have hmax : claimed.maxTurnsPerConversation = memory.maxTurnsPerConversation :=
      maxTurns_claimOrValidateIn hclaimed
    rw [InMemoryConversationStore.trim_extendTurns] at htrimmed
    cases evidence
    all_goals
      cases htrimmed
      exact hmax
  | readRecentEvidence conversationId ownerUserId limit =>
    obtain ⟨_, -, hafter⟩ := except_bind_eq_ok.mp h
    cases hafter
    rfl
  | appendEvidence snapshot =>
    obtain ⟨appended, happended, hafter⟩ := except_bind_eq_ok.mp h
    obtain ⟨_, -, hadded⟩ := except_bind_eq_ok.mp happended
    cases hafter
    cases hadded
    rfl
  | eraseEvidence conversationId ownerUserId =>
    obtain ⟨⟨deleted, erased⟩, herased, hafter⟩ := except_bind_eq_ok.mp h
    obtain ⟨_, -, hcleared⟩ := except_bind_eq_ok.mp herased
    cases hafter
    cases hcleared
    rfl
  | closeConversation conversationId ownerUserId =>
    obtain ⟨_, -, hafter⟩ := except_bind_eq_ok.mp h
    cases hafter
    rfl

theorem simulates_empty {components : Components} {maxTurns : Int}
    {calls : List (StoreCall × Draws)} (h : AdmissibleCalls components.store maxTurns calls)
    (hfits : ToolNamesFit calls) :
    Simulates components.store { maxTurnsPerConversation := maxTurns } .empty
      (pendingOf calls) where
  owners := fun _ => rfl
  turns :=
    { owner := fun _ hrow => absurd hrow List.not_mem_nil
      state := fun _ => (List.rtake_nil _).symm
      ids := h.turnIds
      times := h.turnTimes }
  evidence :=
    { owner := fun _ hrow => absurd hrow List.not_mem_nil
      evidence := fun _ => rfl
      ids := h.evidenceIds
      exchanges := h.exchangeIds
      times := h.evidenceTimes
      unexpired := fun _ hrow => absurd hrow List.not_mem_nil
      decodes := h.roundTrips
      lasts := h.unexpired
      fits := hfits }

end HotAirBalloon.Memory
