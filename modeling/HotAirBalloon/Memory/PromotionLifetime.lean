import HotAirBalloon.Memory.CandidateKey
import HotAirBalloon.Memory.FactPolicy
import HotAirBalloon.Memory.Isolation

/-!
# How long a promoted fact is remembered

`promote` hands over when its fact expires. A new record takes that time; a record that is there
already, at the first look-up or after another session has won the insert, keeps its own.
`promote_lasts_iff` says when that is late enough.
-/

namespace HotAirBalloon.Memory

open Python Library

/-- The live record of a fact; the partial unique index leaves at most one. -/
def liveFact (ownerUserId : Uuid) (kind contentSha256 : String) (t : Tables) :
    Option AssistantMemoryRecord :=
  (t.memories.rows.filter (isUserFact ownerUserId kind contentSha256)).head?

/-- The record does not expire before a time, and never if there is none. -/
def AssistantMemoryRecord.LastsUntil (expiresAtUtc : Option DateTime)
    (row : AssistantMemoryRecord) : Prop :=
  match expiresAtUtc with
  | none => row.expiresAt = none
  | some time => ∀ expiry ∈ row.expiresAt, time ≤ expiry

def Op.insertsMemory : Op → Bool
  | sql (.insertMemory _) => true
  | _ => false

/-- What other sessions have committed in the meantime. -/
def World.overtake {ι : Type} (others : Tables → Tables) (w : World ι) : World ι :=
  { w with server := { w.server with committed := others w.server.committed } }

/-- Other sessions commit between the look-up of a fact and its insert. -/
def overtaken {ι : Type} [DecidableEq ι] :
    Exec ι PyError Op Op.Reply (Tables → Tables) (World ι) := fun i op others w =>
  exec i op .arrives (if op.insertsMemory then w.overtake others else w)

theorem lastsUntil_self {expiresAtUtc : Option DateTime} {row : AssistantMemoryRecord}
    (h : row.expiresAt = expiresAtUtc) : row.LastsUntil expiresAtUtc := by
  subst h
  unfold AssistantMemoryRecord.LastsUntil
  cases hexpiry : row.expiresAt with
  | none => rfl
  | some time =>
    intro expiry heq
    rw [Option.mem_some_iff.mp heq]

section

variable {t v : Tables} {x : VectorIndex} {w : World Unit} {others : Tables → Tables} {α : Type}

/-- Without an insert the other sessions make no difference. -/
theorem overtaken_of_alone {p : Action α} {Q : Except PyError α → World Unit → Prop}
    (h : FinishesAlone () p w Q) (hp : p.Calls (fun op => op.insertsMemory = false)) :
    Finishes overtaken () others p w Q := by
  refine h.of_agree hp ?_
  intro op w hop
  simp [overtaken, hop]

theorem Alone.overtake (h : Alone () t t x w) (hclean : w.server.changes () = []) :
    Alone () (others t) (others t) x (w.overtake others) where
  committed := congrArg others h.committed
  visible := by
    unfold World.visible Server.visible World.overtake
    dsimp only
    rw [hclean]
    exact congrArg others h.committed
  index := h.index
  locks := h.locks

/-- The look-up of a fact. -/
theorem lookup_overtaken (ownerUserId : Uuid) (kind contentSha256 : String) (h : Alone () t t x w)
    (hclean : w.server.changes () = []) :
    Finishes overtaken () others (sql (.selectUserFactForUpdate ownerUserId kind contentSha256)) w
      (fun r w' => r = .ok (liveFact ownerUserId kind contentSha256 t) ∧ Alone () t t x w' ∧
        w'.server.changes () = []) := by
  have houtcome : ((Sql.selectUserFactForUpdate ownerUserId kind contentSha256).alone t).outcome =
      .ok (liveFact ownerUserId kind contentSha256 t, []) := rfl
  obtain ⟨r, w', hrun, rfl, halone⟩ := h.sql houtcome
  obtain ⟨⟨reply, w₁⟩, hexec, hdone⟩ := Option.bind_eq_some_iff.mp hrun
  obtain ⟨rfl, rfl⟩ := Prod.mk.inj (Option.some.inj hdone)
  refine overtaken_of_alone ⟨_, _, hrun, rfl, halone, ?_⟩ (calls_sql rfl)
  obtain ⟨changes, houtcome', hexecuted⟩ := executed_of_ok hexec
  obtain rfl := changes_writeEffect houtcome'
  rw [hexecuted.changes_eq, Function.update_self, hclean]
  rfl

/-- The merge of turn ids keeps the record's expiry. -/
theorem flushSourceTurnIds_runs {existing : AssistantMemoryRecord} (sourceTurnIds : List Uuid)
    (hrow : existing ∈ v.memories) :
    ∃ v', RunsAlone () t v (MemoryRecordRepository.flushSourceTurnIds existing sourceTurnIds)
        (.ok ()) t v' ∧ { existing with sourceTurnIds := sourceTurnIds } ∈ v'.memories := by
  unfold MemoryRecordRepository.flushSourceTurnIds
  split
  · rename_i hsame
    exact ⟨v, RunsAlone.pure (), by rw [← hsame]; exact hrow⟩
  · have hfind : v.memories.find? existing.id = some existing :=
      Table.find?_eq_some_iff.mpr ⟨hrow, rfl⟩
    have houtcome : ((Sql.updateSourceTurnIds existing.id sourceTurnIds).alone v).outcome =
        .ok (1, [.memory (.put { existing with sourceTurnIds := sourceTurnIds })]) := by
      change (updateMemory existing.id _ v).outcome = _
      unfold updateMemory
      rw [hfind]
      rfl
    have hsql :
        RunsAlone () t v (sql (.updateSourceTurnIds existing.id sourceTurnIds)) (.ok 1) t _ :=
      RunsAlone.sql houtcome
    exact ⟨_, hsql.bind (RunsAlone.pure ()), Table.mem_put.mpr (Or.inl rfl)⟩

theorem kind_insertMemory {row : AssistantMemoryRecord} {e : PyError}
    (h : (Memory.insertMemory row t).outcome = .error e) : e.kind = "IntegrityError" := by
  unfold insertMemory at h
  dsimp only at h
  split at h
  · cases h
    rfl
  split at h
  · cases h
    rfl
  split at h
  · cases h
    rfl
  · cases h

/-- The row of an id lasts when the row does. -/
theorem exists_lastsUntil_iff {expiresAtUtc : Option DateTime} {row : AssistantMemoryRecord}
    (hrow : row ∈ t.memories) :
    (∃ named ∈ t.memories, named.id = row.id ∧ named.LastsUntil expiresAtUtc) ↔
      row.LastsUntil expiresAtUtc := by
  constructor
  · rintro ⟨named, hnamed, hid, hlasts⟩
    rwa [← Table.eq_of_key_eq hnamed hrow hid]
  · exact fun hlasts => ⟨row, hrow, rfl, hlasts⟩

/-- What a call promises when it returns: the row that it names lasts long enough exactly when the
record that it has found, if any, does. -/
def NamesLasting (expiresAtUtc : Option DateTime) (found : Option AssistantMemoryRecord)
    (r : Except PyError (Uuid × Bool)) (t : Tables) : Prop :=
  ∀ id created, r = .ok (id, created) →
    ((∃ row ∈ t.memories, row.id = id ∧ row.LastsUntil expiresAtUtc) ↔
      ∀ row ∈ found, row.LastsUntil expiresAtUtc)

theorem NamesLasting.found {expiresAtUtc : Option DateTime} {row existing : AssistantMemoryRecord}
    (hrow : row ∈ t.memories) (hexpiry : row.expiresAt = existing.expiresAt) (created : Bool) :
    NamesLasting expiresAtUtc (some existing) (.ok (row.id, created)) t := by
  rintro id created' heq
  cases heq
  rw [exists_lastsUntil_iff hrow]
  unfold AssistantMemoryRecord.LastsUntil
  rw [hexpiry]
  simp

theorem insert_overtaken {row : AssistantMemoryRecord} {Q : Except PyError Nat → World Unit → Prop}
    (h : FinishesAlone () (sql (.insertMemory row)) (w.overtake others) Q) :
    Finishes overtaken () others (sql (.insertMemory row)) w Q := h

theorem liveFact_of_insert {row : AssistantMemoryRecord} {ownerUserId : Uuid}
    (howner : row.ownerUserId = some ownerUserId) (hlive : isLive row = true)
    (h : duplicatesUserFact row t = false) :
    liveFact ownerUserId row.kind row.contentSha256 t = none := by
  unfold duplicatesUserFact at h
  rw [howner] at h
  dsimp only at h
  rw [hlive, Bool.true_and, List.any_eq_false] at h
  unfold liveFact
  rw [List.filter_eq_nil_iff.mpr h]
  rfl

/-- The insert of a new fact, after other sessions have committed. -/
theorem insertUserFact_overtaken {row : AssistantMemoryRecord} {ownerUserId : Uuid}
    (howner : row.ownerUserId = some ownerUserId) (hlive : isLive row = true)
    (h : Alone () t t x w) (hclean : w.server.changes () = []) :
    Finishes overtaken () others (MemoryRecordRepository.insertUserFact row
        (sql (.selectUserFactForUpdate ownerUserId row.kind row.contentSha256))) w (fun r w' =>
      ∃ t' v' x', NamesLasting row.expiresAt
        (liveFact ownerUserId row.kind row.contentSha256 (others t)) r t' ∧
          Alone () t' v' x' w') := by
  have hovertaken : Alone () (others t) (others t) x (w.overtake others) := h.overtake hclean
  have hinsert : Finishes overtaken () others (Prog.attempt do
        let _ ← sql (.insertMemory row)
        send .commit) w (fun r w' =>
      (r = .ok (.ok ()) ∧ liveFact ownerUserId row.kind row.contentSha256 (others t) = none ∧
        ∃ t', row ∈ t'.memories ∧ Alone () t' t' x w') ∨
      ∃ e : PyError, r = .ok (.error e) ∧ e.kind = "IntegrityError" ∧
        Alone () (others t) (others t) x w') := by
    refine Finishes.attempt (Q := fun r w' => (r = .ok () ∧
        liveFact ownerUserId row.kind row.contentSha256 (others t) = none ∧
          ∃ t', row ∈ t'.memories ∧ Alone () t' t' x w') ∨
        ∃ e : PyError, r = .error e ∧ e.kind = "IntegrityError" ∧
          Alone () (others t) (others t) x w') ?_ ?_
    · cases houtcome : (Memory.insertMemory row (others t)).outcome with
      | ok done =>
        obtain ⟨n, changes⟩ := done
        obtain ⟨rfl, -, -, hduplicates⟩ := outcome_insertMemory houtcome
        have hinserted : FinishesAlone () (sql (.insertMemory row)) (w.overtake others) _ :=
          hovertaken.sql houtcome
        refine (insert_overtaken hinserted).bind ?_ (fun e w₁ hQ => by cases hQ.1)
        rintro _ w₁ ⟨-, h₁⟩
        refine (overtaken_of_alone h₁.commit (calls_send rfl)).post ?_
        rintro r w₂ ⟨hr, h₂⟩
        refine Or.inl ⟨hr, liveFact_of_insert howner hlive hduplicates, _, ?_, h₂⟩
        exact Table.mem_put.mpr (Or.inl rfl)
      | error e =>
        have hrefused : FinishesAlone () (sql (.insertMemory row)) (w.overtake others) _ :=
          hovertaken.sql_error houtcome
        refine (insert_overtaken hrefused).bind (fun n w₁ hQ => by cases hQ.1) ?_
        rintro e' w₁ ⟨heq, h₁⟩
        cases heq
        exact Or.inr ⟨e, rfl, kind_insertMemory houtcome, h₁⟩
    · rintro r w' (⟨rfl, hcreated⟩ | ⟨e, rfl, hrefused⟩)
      · exact Or.inl ⟨rfl, hcreated⟩
      · exact Or.inr ⟨e, rfl, hrefused⟩
  refine hinsert.bind ?_ ?_
  · rintro committed w₁ (⟨heq, hnone, t', hrow, h₁⟩ | ⟨e, heq, hkind, h₁⟩)
    · cases heq
      refine Finishes.pure ⟨t', t', x, ?_, h₁⟩
      rintro id created hreturned
      cases hreturned
      rw [hnone, exists_lastsUntil_iff hrow]
      exact ⟨fun _ _ hfound => (by cases hfound), fun _ => lastsUntil_self rfl⟩
    · cases heq
      dsimp only
      rw [if_pos hkind]
      refine (overtaken_of_alone h₁.rollback (calls_send rfl)).bind ?_
        (fun e w₂ hQ => by cases hQ.1)
      rintro _ w₂ ⟨-, h₂⟩
      have hselect : ((Sql.selectUserFactForUpdate ownerUserId row.kind row.contentSha256).alone
          (others t)).outcome =
            .ok (liveFact ownerUserId row.kind row.contentSha256 (others t), []) := rfl
      refine (overtaken_of_alone (h₂.sql hselect) (calls_sql rfl)).bind ?_
        (fun e w₃ hQ => by cases hQ.1)
      rintro found w₃ ⟨hfound, h₃⟩
      cases hfound
      cases hlookup : liveFact ownerUserId row.kind row.contentSha256 (others t) with
      | none => exact Finishes.raise ⟨_, _, x, nofun, h₃⟩
      | some existing =>
        have hmem : existing ∈ (others t).memories :=
          List.mem_of_mem_filter (List.mem_of_mem_head? hlookup)
        exact Finishes.pure ⟨_, _, x, NamesLasting.found hmem rfl false, h₃⟩
  · rintro e w₁ (⟨heq, -⟩ | ⟨e', heq, -⟩) <;> cases heq

end

/-- The record that the store has for a statement, in the tables of the look-up or, if it has none
there, of the insert. -/
def MemoryRecordRepository.storedFact (repository : MemoryRecordRepository) (ownerUserId : Uuid)
    (statement : String) (t t' : Tables) : Option AssistantMemoryRecord :=
  (liveFact ownerUserId "conversation_summary" (repository.contentHash statement) t).or
    (liveFact ownerUserId "conversation_summary" (repository.contentHash statement) t')

theorem promote_names (repository : MemoryRecordRepository) (fact : ExtractedFact)
    (ownerUserId : Uuid) (requiredPermissions : List String) (sourceTurnIds : List Uuid)
    (expiresAtUtc : Option DateTime) (memoryId : Uuid) (now : DateTime) {t : Tables}
    {x : VectorIndex} {w : World Unit} {others : Tables → Tables} (h : Alone () t t x w)
    (hclean : w.server.changes () = []) :
    Finishes overtaken () others
      (promote repository fact ownerUserId requiredPermissions sourceTurnIds
        expiresAtUtc memoryId now) w (fun r w' => ∃ t' x',
      NamesLasting expiresAtUtc
        (repository.storedFact ownerUserId fact.statement t (others t)) r t' ∧
        Alone () t' t' x' w') := by
  unfold promote MemoryRecordRepository.recordOrGetUserFact MemoryRecordRepository.storedFact
  dsimp only
  rw [if_neg (by simp)]
  have hrollback : ∀ w : World Unit,
      overtaken () .rollback others w = exec () .rollback .arrives w :=
    fun _ => rfl
  refine Alone.inSession_of hrollback (fun r t' _ => NamesLasting expiresAtUtc _ r t') ?_
  refine (lookup_overtaken ownerUserId _ _ h hclean).bind ?_ (fun e w₁ hQ => by cases hQ.1)
  rintro found w₁ ⟨heq, h₁, hclean₁⟩
  cases heq
  cases hlookup : liveFact ownerUserId "conversation_summary"
      (repository.contentHash fact.statement) t with
  | none =>
    rw [Option.none_or]
    have hrow : repository.newRecord {
        kind := "conversation_summary"
        content := fact.statement
        ownerUserId := some ownerUserId
        siteCode := none
        requiredPermissions := requiredPermissions
        sourceTurnIds := sourceTurnIds
        expiresAtUtc := expiresAtUtc } memoryId now (strip fact.statement)
        (repository.contentHash fact.statement) = .ok _ := rfl
    dsimp only
    rw [hrow]
    exact insertUserFact_overtaken rfl rfl h₁ hclean₁
  | some existing =>
    rw [Option.some_or]
    have hmem : existing ∈ t.memories := List.mem_of_mem_filter (List.mem_of_mem_head? hlookup)
    obtain ⟨v', hflush, hmerged⟩ := flushSourceTurnIds_runs (t := t)
      (existing.sourceTurnIds ++ sourceTurnIds).eraseDups hmem
    have hcommitted : FinishesAlone () (do
        MemoryRecordRepository.flushSourceTurnIds existing
          (existing.sourceTurnIds ++ sourceTurnIds).eraseDups
        send .commit
        return (existing.id, false)) w₁ (fun r w' => r = .ok (existing.id, false) ∧
          Alone () v' v' x w') := by
      refine (hflush x w₁ h₁).bind ?_ (fun e w₂ hQ => by cases hQ.1)
      rintro _ w₂ ⟨-, h₂⟩
      refine h₂.commit.bind ?_ (fun e w₃ hQ => by cases hQ.1)
      rintro _ w₃ ⟨-, h₃⟩
      exact Finishes.pure ⟨rfl, h₃⟩
    have hexpiry : AssistantMemoryRecord.expiresAt { existing with
        sourceTurnIds := (existing.sourceTurnIds ++ sourceTurnIds).eraseDups } =
          existing.expiresAt := rfl
    refine (overtaken_of_alone hcommitted ?_).post ?_
    · refine Prog.Calls.bind ?_ (fun _ => Prog.Calls.bind (calls_send rfl) fun _ =>
        Prog.Calls.pure _)
      unfold MemoryRecordRepository.flushSourceTurnIds
      split
      · exact Prog.Calls.pure _
      · exact calls_flushUpdate (calls_sql rfl)
    · rintro r w' ⟨rfl, h'⟩
      exact ⟨v', v', x, NamesLasting.found hmerged hexpiry false, h'⟩

/-- `promote`, from any tables, whatever other sessions commit before the insert: the record that is
named lasts until the given time exactly when the record that the store has already, if any,
does. -/
theorem promote_lasts_iff (repository : MemoryRecordRepository) (fact : ExtractedFact)
    (ownerUserId : Uuid) (requiredPermissions : List String) (sourceTurnIds : List Uuid)
    (expiresAtUtc : Option DateTime) (memoryId : Uuid) (now : DateTime) (t : Tables)
    (x : VectorIndex) (others : Tables → Tables) :
    Finishes overtaken () others
      (promote repository fact ownerUserId requiredPermissions sourceTurnIds
        expiresAtUtc memoryId now) (World.idle t x) (fun r w' =>
          ∀ id created, r = .ok (id, created) →
      ((∃ row ∈ w'.server.committed.memories, row.id = id ∧ row.LastsUntil expiresAtUtc) ↔
        ∀ row ∈ repository.storedFact ownerUserId fact.statement t (others t),
          row.LastsUntil expiresAtUtc)) := by
  have hstart : Alone () t t x (World.idle t x : World Unit) := Alone.start () []
  refine (promote_names repository fact ownerUserId requiredPermissions sourceTurnIds expiresAtUtc
    memoryId now hstart rfl).post ?_
  rintro r w' ⟨t', x', hnames, h'⟩
  rw [h'.committed]
  exact hnames

/-! ## A fact that is stated again -/

def affinityPolicy : FactAcceptancePolicy := ⟨.ascii, 500, []⟩

def affinityFact : ExtractedFact where
  statement := "User likes the pump of line 2."
  factClass := "entity_affinity"
  evidenceTurnIds := [.ofNat 1]
  entityRefs := []
  explicitlyStated := true

/-- The promotion of the fact, accepted at a time. -/
def promoteAt (memoryId : Nat) (now : DateTime) : Action (Uuid × Bool) :=
  promote (Components.wired .ascii id id).repository affinityFact (.ofNat 10) [] [.ofNat 1]
    (affinityPolicy.evaluate affinityFact [.ofNat 1] now).expiresAtUtc (.ofNat memoryId) now

/-- The fact is promoted, and again after 100 days. -/
def restatedRun : Option (Except PyError (Uuid × Bool) × World Unit) :=
  ((promoteAt 300 0).run exec () .arrives (World.idle .empty .empty)).bind fun (_, w) =>
    (promoteAt 301 (DateTime.days 100)).run exec () .arrives w

/-- Both promotions name the first record, which keeps its expiry. -/
theorem restated_expires :
    (affinityPolicy.evaluate affinityFact [.ofNat 1] (DateTime.days 100)).decision = .accepted ∧
    ∃ r₁ w₁ id created w₂,
      (promoteAt 300 0).run exec () .arrives (World.idle .empty .empty) = some (r₁, w₁) ∧
      (promoteAt 301 (DateTime.days 100)).run exec () .arrives w₁ = some (.ok (id, created), w₂) ∧
      ∀ row ∈ w₂.server.committed.memories, row.id = id → ¬row.LastsUntil
        (affinityPolicy.evaluate affinityFact [.ofNat 1] (DateTime.days 100)).expiresAtUtc := by
  have hexpiry :
      (affinityPolicy.evaluate affinityFact [.ofNat 1] (DateTime.days 100)).expiresAtUtc =
      some (DateTime.days 280) := by decide
  have hrun : restatedRun.any (fun (r, w) => r.isOk && w.server.committed.memories.rows.all
      (fun row => row.expiresAt = some (DateTime.days 180))) = true := by
    decide
  refine ⟨by decide, ?_⟩
  obtain ⟨⟨r, w₂⟩, hsome, hfacts⟩ := (Option.any_eq_true _ _).mp hrun
  obtain ⟨⟨r₁, w₁⟩, hfirst, hsecond⟩ := Option.bind_eq_some_iff.mp hsome
  obtain ⟨hok, hrows⟩ := Bool.and_eq_true_iff.mp hfacts
  cases r with
  | error e => cases hok
  | ok named =>
    refine ⟨r₁, w₁, named.1, named.2, w₂, hfirst, hsecond, ?_⟩
    intro row hrow _ hlasts
    rw [hexpiry] at hlasts
    have hkept : row.expiresAt = some (DateTime.days 180) :=
      of_decide_eq_true (List.all_eq_true.mp hrows row hrow)
    have hlate : DateTime.days 280 ≤ DateTime.days 180 := hlasts _ hkept
    revert hlate
    decide

end HotAirBalloon.Memory
