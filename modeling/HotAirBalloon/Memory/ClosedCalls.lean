import HotAirBalloon.Memory.Alone

/-!
# Calls end their transactions

Every operation of the stores and jobs does its work in sessions that it closes. A call that runs
alone therefore leaves no uncommitted row behind, whether it returns or raises, and the tables after
any sequence of calls are tables that the next call can start from.
-/

namespace HotAirBalloon.Memory

open Python Library

/-- Nothing is uncommitted. -/
def Idle (w : World Unit) : Prop := w.server.changes () = []

theorem Idle.alone {w : World Unit} (h : Idle w) :
    Alone () w.server.committed w.server.committed w.index w where
  committed := rfl
  visible := by
    unfold World.visible Server.visible
    rw [h]
    rfl
  index := rfl
  locks _ _ := rfl

/-- A run of the program that begins with nothing uncommitted ends so. -/
def Closing {α : Type} (p : Action α) : Prop :=
  ∀ w r w', Idle w → p.run exec () .arrives w = some (r, w') → Idle w'

namespace Closing

variable {α β : Type} {p : Action α} {f : α → Action β}

theorem ofExcept (r : Except PyError α) : Closing (Prog.ofExcept r) := by
  intro w r' w' h hrun
  obtain ⟨rfl, rfl⟩ := Prod.mk.inj (Option.some.inj hrun)
  exact h

theorem pure (a : α) : Closing (Pure.pure a) := ofExcept (.ok a)

theorem raise (e : PyError) : Closing (Prog.raise e : Action α) := ofExcept (.error e)

theorem bind (h : Closing p) (hf : ∀ a, Closing (f a)) : Closing (p >>= f) := by
  intro w r w' hidle hrun
  rw [Prog.run_bind] at hrun
  obtain ⟨⟨r₁, w₁⟩, hfirst, hrest⟩ := Option.bind_eq_some_iff.mp hrun
  have hmiddle := h w r₁ w₁ hidle hfirst
  cases r₁ with
  | ok a => exact hf a w₁ r w' hmiddle hrest
  | error e =>
    obtain ⟨rfl, rfl⟩ := Prod.mk.inj (Option.some.inj hrest)
    exact hmiddle

theorem attempt (h : Closing p) : Closing p.attempt := by
  intro w r w' hidle hrun
  rw [Prog.run_attempt] at hrun
  obtain ⟨⟨r₁, w₁⟩, hbody, heq⟩ := Option.map_eq_some_iff.mp hrun
  obtain ⟨rfl, rfl⟩ := Prod.mk.inj heq
  exact h w r₁ w₁ hidle hbody

theorem forEach {items : List β} {body : β → Action Unit} (h : ∀ item, Closing (body item)) :
    Closing (Prog.forEach items body) := by
  induction items with
  | nil => exact pure ()
  | cons item rest ih => exact (h item).bind (fun _ => ih)

theorem foldEach {σ : Type} {items : List β} {acc : σ} {body : σ → β → Action σ}
    (h : ∀ acc item, Closing (body acc item)) : Closing (Prog.foldEach items acc body) := by
  induction items generalizing acc with
  | nil => exact pure acc
  | cons item rest ih => exact (h acc item).bind (fun _ => ih)

/-- A call that is no statement leaves the transaction as it is, or ends it. -/
theorem send {op : Op} (hop : ∀ stmt, op ≠ .sql stmt) : Closing (Memory.send op) := by
  intro w r w' hidle hrun
  obtain ⟨⟨reply, w₁⟩, hexec, hdone⟩ := Option.bind_eq_some_iff.mp hrun
  obtain ⟨rfl, rfl⟩ := Prod.mk.inj (Option.some.inj hdone)
  unfold exec deliver at hexec
  obtain ⟨⟨reply', w₂⟩, hcarry, heq⟩ := Option.map_eq_some_iff.mp hexec
  obtain ⟨rfl, rfl⟩ := Prod.mk.inj heq
  cases op with
  | sql stmt => exact absurd rfl (hop stmt)
  | commit =>
    cases hcarry
    show Function.update w.server.changes () [] () = []
    exact Function.update_self _ _ _
  | rollback =>
    cases hcarry
    show Function.update w.server.changes () [] () = []
    exact Function.update_self _ _ _
  | _ =>
    cases hcarry
    exact hidle

/-- A session is closed, whatever its body has done. -/
theorem inSession (body : Action α) : Closing (Memory.inSession body) := by
  intro w r w' _ hrun
  unfold Memory.inSession at hrun
  rw [Prog.run_bind, Prog.run_attempt] at hrun
  obtain ⟨⟨r₁, w₁⟩, hbody, hrest⟩ := Option.bind_eq_some_iff.mp hrun
  obtain ⟨⟨result, w₂⟩, -, heq⟩ := Option.map_eq_some_iff.mp hbody
  obtain ⟨rfl, rfl⟩ := Prod.mk.inj heq
  have hclosed : Idle { w₂ with
      server := w₂.server.rollback ()
      log := w₂.log ++ [((), ⟨.rollback, .ok ()⟩)] } := by
    show Function.update w₂.server.changes () [] () = []
    exact Function.update_self _ _ _
  exact ofExcept result _ r w' hclosed hrest

theorem transaction (body : Action α) : Closing (Memory.transaction body) := inSession _

end Closing

/-! ## The calls -/

theorem closing_deleteVectors (records : List AssistantMemoryRecord) :
    Closing (deleteVectors records) := by
  apply Closing.foldEach
  rintro deletedVectors ⟨vectorNamespace, group⟩
  exact (Closing.send (by simp)).bind (fun _ => Closing.pure _)

theorem closing_purgeOnce (job : MemoryRetentionJob) (now : DateTime) :
    Closing (job.purgeOnce now) := by
  have hbatch : Closing job.deleteSoftDeletedBatch := by
    refine (Closing.inSession _).bind (fun rows => ?_)
    split
    · exact Closing.pure _
    · refine (closing_deleteVectors rows).bind (fun _ => ?_)
      exact (Closing.inSession _).bind (fun _ => Closing.pure _)
  refine (Closing.inSession _).bind (fun _ => hbatch.bind (fun _ => ?_))
  exact (Closing.inSession _).bind (fun _ => Closing.pure _)

theorem closing_eraseUserMemory (eraser : UserMemoryEraser) (ownerUserId : Uuid) :
    Closing (eraser.eraseUserMemory ownerUserId) := by
  refine (Closing.inSession _).bind (fun _ => (closing_deleteVectors _).bind (fun _ => ?_))
  exact (Closing.inSession _).bind (fun _ => Closing.pure _)

theorem closing_reconcileOnce (job : ReconciliationJob) : Closing job.reconcileOnce := by
  refine (Closing.inSession _).bind (fun records => ?_)
  apply Closing.foldEach
  intro deletedCount vectorNamespace
  refine (Closing.send (by simp)).bind (fun listed => ?_)
  dsimp only
  split
  · exact Closing.pure _
  · exact (Closing.send (by simp)).bind (fun _ => Closing.pure _)

theorem closing_recordOrGetUserFact (repository : MemoryRecordRepository)
    (memory : MemoryRecordWrite) (memoryId : Uuid) (now : DateTime) :
    Closing (repository.recordOrGetUserFact memory memoryId now) := by
  unfold MemoryRecordRepository.recordOrGetUserFact
  split
  · exact Closing.raise _
  · split
    · exact Closing.raise _
    · exact Closing.inSession _

/-- No call leaves a transaction open. -/
theorem closing_program (components : Components) (call : Call) :
    Closing (call.program components) := by
  have hdone : ∀ result : CallResult, Closing (pure result : Action CallResult) := Closing.pure
  cases call with
  | claimOrValidate => exact (Closing.transaction _).bind (fun _ => hdone _)
  | readRecent =>
    exact ((Closing.inSession _).bind (fun _ => Closing.pure _)).bind (fun _ => hdone _)
  | append => exact (Closing.transaction _).bind (fun _ => hdone _)
  | appendCompletedExchange =>
    refine Closing.bind ?_ (fun _ => hdone _)
    unfold ConversationStore.appendCompletedExchange
    split
    · exact Closing.raise _
    · exact Closing.transaction _
  | readRecentEvidence =>
    exact ((Closing.inSession _).bind (fun _ => Closing.ofExcept _)).bind (fun _ => hdone _)
  | appendEvidence => exact (Closing.transaction _).bind (fun _ => hdone _)
  | eraseEvidence => exact (Closing.transaction _).bind (fun _ => hdone _)
  | closeConversation => exact (Closing.transaction _).bind (fun _ => hdone _)
  | purgeExpired => exact (Closing.inSession _).bind (fun _ => hdone _)
  | record => exact (Closing.inSession _).bind (fun _ => hdone _)
  | recordOrGetUserFact =>
    exact (closing_recordOrGetUserFact _ _ _ _).bind (fun _ => hdone _)
  | syncOnce => exact (Closing.inSession _).bind (fun _ => hdone _)
  | reconcileOnce => exact (closing_reconcileOnce _).bind (fun _ => hdone _)
  | purgeOnce => exact (closing_purgeOnce _ _).bind (fun _ => hdone _)
  | eraseUserMemory => exact (closing_eraseUserMemory _ _).bind (fun _ => hdone _)
  | recordOutcome => exact (Closing.inSession _).bind (fun _ => hdone _)
  | markPromoted => exact (Closing.inSession _).bind (fun _ => hdone _)

/-- After any calls nothing is uncommitted. -/
theorem idle_runAlone {components : Components} {calls : List Call} {w w' : World Unit}
    (h : Idle w) (hrun : runAlone components calls w = some w') : Idle w' := by
  induction calls generalizing w with
  | nil =>
    cases hrun
    exact h
  | cons call rest ih =>
    obtain ⟨⟨r, w₁⟩, hcall, hrest⟩ := Option.bind_eq_some_iff.mp hrun
    exact ih (closing_program components call w r w₁ h hcall) hrest

end HotAirBalloon.Memory
