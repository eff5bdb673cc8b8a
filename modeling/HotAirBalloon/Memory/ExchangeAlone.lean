import HotAirBalloon.Memory.Alone

/-!
# Appending an exchange

What `append_completed_exchange` does when it runs alone on a conversation of the owner: with an
evidence record it commits both turns and the record, and without one it raises, before anything is
sent but the claim, and commits nothing.
-/

namespace HotAirBalloon.Memory

open Python Library Evidence

variable {ι : Type} [DecidableEq ι] {i : ι} {t v : Tables} {conversationId ownerUserId : Uuid}

/-- The conversation is there and belongs to the owner. -/
def Owned (conversationId ownerUserId : Uuid) (v : Tables) : Prop :=
  ∃ row, v.conversations.find? conversationId = some row ∧ row.ownerUserId = ownerUserId

namespace Owned

/-- An update of the conversation's row keeps the conversation its owner's. -/
theorem put (h : Owned conversationId ownerUserId v) {row : AssistantConversationRecord}
    (howner : row.ownerUserId = ownerUserId) :
    Owned conversationId ownerUserId (v.after [.conversation (.put row)]) := by
  obtain ⟨old, hfind, hold⟩ := h
  change ∃ row', (v.conversations.put row).find? conversationId = some row' ∧ _
  rw [Table.find?_put]
  split
  · exact ⟨row, rfl, howner⟩
  · exact ⟨old, hfind, hold⟩

theorem hasConversation (h : Owned conversationId ownerUserId v) :
    hasConversation (conversationId, ownerUserId) v = true := by
  obtain ⟨row, hfind, rfl⟩ := h
  obtain ⟨hmem, rfl⟩ := Table.find?_eq_some_iff.mp hfind
  unfold Memory.hasConversation
  rw [List.any_eq_true]
  exact ⟨row, hmem, decide_eq_true rfl⟩

/-- Claiming one's own conversation changes its row to itself. -/
theorem claim (h : Owned conversationId ownerUserId v) (observedAt : DateTime) :
    ∃ row : AssistantConversationRecord, row.ownerUserId = ownerUserId ∧
      RunsAlone i t v (ConversationStore.claimOrValidateIn conversationId ownerUserId observedAt)
        (.ok ()) t (v.after [.conversation (.put row)]) := by
  obtain ⟨row, hfind, howner⟩ := h
  have houtcome : ((Sql.claimConversation conversationId ownerUserId observedAt).alone v).outcome =
      .ok (some conversationId, [.conversation (.put row)]) := by
    change (claimConversation conversationId ownerUserId observedAt v).outcome = _
    unfold claimConversation
    rw [hfind]
    dsimp only
    rw [if_pos howner]
    rfl
  exact ⟨row, howner, (RunsAlone.sql houtcome).bind (RunsAlone.pure ())⟩

theorem advance (h : Owned conversationId ownerUserId v) (touchedAt : DateTime) (increment : Int) :
    ∃ row : AssistantConversationRecord, row.ownerUserId = ownerUserId ∧
      RunsAlone i t v
        (ConversationStore.advanceConversation conversationId ownerUserId touchedAt increment)
        (.ok ()) t (v.after [.conversation (.put row)]) := by
  obtain ⟨row, hfind, howner⟩ := h
  have houtcome : ((Sql.advanceConversation conversationId ownerUserId touchedAt increment).alone
      v).outcome = .ok (some conversationId,
        [.conversation (.put (advanced touchedAt increment row))]) := by
    change (updateConversation conversationId ownerUserId (advanced touchedAt increment)
      v).outcome = _
    unfold updateConversation ownedConversation
    rw [hfind, Option.filter_some, if_pos (decide_eq_true howner)]
    rfl
  refine ⟨advanced touchedAt increment row, howner, ?_⟩
  exact (RunsAlone.sql houtcome).bind (RunsAlone.pure ())

end Owned

theorem insertTurn_runs {row : ConversationTurnRecord} (hfresh : v.turns.find? row.id = none)
    (howned : Owned row.conversationId row.ownerUserId v) :
    RunsAlone i t v (sql (.insertTurn row)) (.ok 1) t (v.after [.turn (.put row)]) := by
  apply RunsAlone.sql
  change (insertTurn row v).outcome = _
  unfold insertTurn
  dsimp only
  rw [hfresh, if_neg (by simp)]
  have hhas : hasConversation row.ownerKey v = true := howned.hasConversation
  rw [hhas]
  rfl

theorem insertEvidence_runs {row : ConversationEvidenceRecord} (hfits : row.fits = true)
    (hfresh : v.evidence.find? row.id = none)
    (hexchange : ∀ other ∈ v.evidence, other.exchangeId ≠ row.exchangeId)
    (howned : Owned row.conversationId row.ownerUserId v) :
    RunsAlone i t v (sql (.insertEvidence row)) (.ok 1) t (v.after [.evidence (.put row)]) := by
  apply RunsAlone.sql
  change (insertEvidence row v).outcome = _
  unfold insertEvidence
  dsimp only
  have hany : v.evidence.rows.any (fun other => other.exchangeId = row.exchangeId) = false := by
    rw [List.any_eq_false]
    intro other hother
    simpa using hexchange other hother
  have hhas : hasConversation row.ownerKey v = true := howned.hasConversation
  rw [hfits, hfresh, if_neg (by simp), if_neg (by simp), hany, hhas]
  rfl

/-- The ids of a new exchange are new. -/
structure FreshExchange (userTurnId assistantTurnId evidenceId exchangeId : Uuid) (t : Tables) :
    Prop where
  userTurn : t.turns.find? userTurnId = none
  assistantTurn : t.turns.find? assistantTurnId = none
  turns_ne : userTurnId ≠ assistantTurnId
  evidence : t.evidence.find? evidenceId = none
  exchange : ∀ row ∈ t.evidence, row.exchangeId ≠ exchangeId

variable {store : ConversationStore} {userTurn assistantTurn : ConversationTurn}
  {userTurnId assistantTurnId evidenceId exchangeId : Uuid}

theorem insertEvidence?_runs_alone {record : Option ConversationEvidenceRecord}
    (hfresh : ∀ row, record = some row → row.fits = true ∧ v.evidence.find? row.id = none ∧
      (∀ other ∈ v.evidence, other.exchangeId ≠ row.exchangeId) ∧
      Owned row.conversationId row.ownerUserId v) :
    ∃ v', RunsAlone i t v (ConversationStore.insertEvidence? record) (.ok ()) t v' ∧
      v'.turns = v.turns ∧ ∀ row, record = some row → row ∈ v'.evidence := by
  cases record with
  | none => exact ⟨v, RunsAlone.pure (), rfl, fun row hrow => by cases hrow⟩
  | some row =>
    obtain ⟨hfits, hid, hexchange, howned⟩ := hfresh row rfl
    refine ⟨v.after [.evidence (.put row)],
      (insertEvidence_runs hfits hid hexchange howned).bind (RunsAlone.pure ()), rfl, ?_⟩
    intro row' hrow'
    cases hrow'
    exact Table.mem_put.mpr (Or.inl rfl)

/-- Two turns of one conversation. -/
theorem insertTurns_runs {userRow assistantRow : ConversationTurnRecord}
    (huser : v.turns.find? userRow.id = none) (hassistant : v.turns.find? assistantRow.id = none)
    (hne : userRow.id ≠ assistantRow.id)
    (howned : Owned userRow.conversationId userRow.ownerUserId v)
    (howned' : Owned assistantRow.conversationId assistantRow.ownerUserId v) :
    ∃ v₁ v₂, RunsAlone i t v (sql (.insertTurn userRow)) (.ok 1) t v₁ ∧
      RunsAlone i t v₁ (sql (.insertTurn assistantRow)) (.ok 1) t v₂ ∧
      v₂.conversations = v.conversations ∧ v₂.evidence = v.evidence ∧
      userRow ∈ v₂.turns ∧ assistantRow ∈ v₂.turns := by
  refine ⟨v.after [.turn (.put userRow)],
    (v.after [.turn (.put userRow)]).after [.turn (.put assistantRow)],
    insertTurn_runs huser howned, ?_, rfl, rfl, ?_, ?_⟩
  · apply insertTurn_runs
    · change (v.turns.put userRow).find? assistantRow.id = none
      rw [Table.find?_put, if_neg hne.symm]
      exact hassistant
    · exact howned'
  · change userRow ∈ (v.turns.put userRow).put assistantRow
    rw [Table.mem_put]
    exact Or.inr ⟨Table.mem_put.mpr (Or.inl rfl), hne⟩
  · exact Table.mem_put.mpr (Or.inl rfl)

theorem appendCompletedExchange_runs (howned : Owned conversationId ownerUserId t)
    (hfresh : FreshExchange userTurnId assistantTurnId evidenceId exchangeId t)
    (huser : userTurn.role = "user") (hassistant : assistantTurn.role = "assistant")
    {evidence : Option ConversationEvidenceSnapshot} {record : Option ConversationEvidenceRecord}
    (hrecord : store.evidenceRecord? evidenceId evidence = .ok record)
    (hmatches : ∀ row, record = some row → row.fits = true ∧ row.id = evidenceId ∧
      row.exchangeId = exchangeId ∧ row.conversationId = conversationId ∧
      row.ownerUserId = ownerUserId) :
    ∃ t', RunsAlone i t t (store.appendCompletedExchange conversationId ownerUserId userTurn
        assistantTurn evidence userTurnId assistantTurnId evidenceId) (.ok ()) t' t' ∧
      store.turnRecord userTurnId conversationId ownerUserId userTurn ∈ t'.turns ∧
      store.turnRecord assistantTurnId conversationId ownerUserId assistantTurn ∈ t'.turns ∧
      ∀ row, record = some row → row ∈ t'.evidence := by
  obtain ⟨row, howner, hclaim⟩ : ∃ row : AssistantConversationRecord,
      row.ownerUserId = ownerUserId ∧
      RunsAlone i t t (ConversationStore.claimOrValidateIn conversationId ownerUserId
        userTurn.createdAtUtc) (.ok ()) t (t.after [.conversation (.put row)]) :=
    howned.claim userTurn.createdAtUtc
  have hclaimed := howned.put howner
  obtain ⟨row', howner', hadvance⟩ : ∃ row' : AssistantConversationRecord,
      row'.ownerUserId = ownerUserId ∧
      RunsAlone i t (t.after [.conversation (.put row)]) (ConversationStore.advanceConversation
        conversationId ownerUserId assistantTurn.createdAtUtc 2) (.ok ()) t
        ((t.after [.conversation (.put row)]).after [.conversation (.put row')]) :=
    hclaimed.advance assistantTurn.createdAtUtc 2
  have hadvanced := hclaimed.put howner'
  -- neither statement touches the turns or the evidence
  generalize hv : (t.after [.conversation (.put row)]).after [.conversation (.put row')] = v
    at hadvance hadvanced
  have hturns : v.turns = t.turns := by rw [← hv]; rfl
  have hevidence : v.evidence = t.evidence := by rw [← hv]; rfl
  obtain ⟨v₁, v₂, huserTurn, hassistantTurn, hconversations, hevidence₂, huserMem, hassistantMem⟩ :
      ∃ v₁ v₂, RunsAlone i t v (sql (.insertTurn
          (store.turnRecord userTurnId conversationId ownerUserId userTurn))) (.ok 1) t v₁ ∧
        RunsAlone i t v₁ (sql (.insertTurn
          (store.turnRecord assistantTurnId conversationId ownerUserId assistantTurn)))
          (.ok 1) t v₂ ∧ _ := by
    apply insertTurns_runs
    · rw [hturns]
      exact hfresh.userTurn
    · rw [hturns]
      exact hfresh.assistantTurn
    · exact hfresh.turns_ne
    · exact hadvanced
    · exact hadvanced
  obtain ⟨t', hlast, hturns', hrows⟩ : ∃ t', RunsAlone i t v₂
      (ConversationStore.insertEvidence? record) (.ok ()) t t' ∧ t'.turns = v₂.turns ∧
      ∀ row, record = some row → row ∈ t'.evidence := by
    apply insertEvidence?_runs_alone
    intro row hrow
    obtain ⟨hfits, hid, hexchange, hconversation, howner⟩ := hmatches row hrow
    rw [hevidence₂, hevidence, hid, hexchange, hconversation, howner]
    refine ⟨hfits, hfresh.evidence, hfresh.exchange, ?_⟩
    unfold Owned
    rw [hconversations]
    exact hadvanced
  rw [← hturns'] at huserMem hassistantMem
  refine ⟨t', ?_, huserMem, hassistantMem, hrows⟩
  unfold ConversationStore.appendCompletedExchange
  rw [if_neg (by simp [huser, hassistant])]
  apply RunsAlone.transaction_ok
  refine hclaim.bind ?_
  dsimp only
  rw [hrecord]
  exact (RunsAlone.ofExcept (.ok record)).bind (hadvance.bind (huserTurn.bind
    (hassistantTurn.bind hlast)))

end HotAirBalloon.Memory
